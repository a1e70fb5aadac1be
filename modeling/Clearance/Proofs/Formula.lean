import Clearance.Parse
import Clearance.Proofs.Spelling

/-! The bracket structure of an expression text. The stack of scopes reads it one scope after
the other, as a recursion over the brackets would. -/
namespace Clearance

/-- A chain of computations is not refused only if none of them is. -/
lemma Refusal.bind_eq_ok_iff {α β : Type} {x : Except Refusal α} {f : α → Except Refusal β}
    {b : β} : (x >>= f) = .ok b ↔ ∃ a, x = .ok a ∧ f a = .ok b := by
  cases x with
  | error r => exact ⟨nofun, nofun⟩
  | ok a => exact ⟨fun h => ⟨a, rfl, h⟩, fun ⟨_, ha, h⟩ => Except.ok.inj ha ▸ h⟩

/-- What is made of a result is refused for the same reason as the result. -/
lemma Refusal.bind_ok_eq_error_iff {α β : Type} {x : Except Refusal α} {f : α → β} {r : Refusal} :
    (x >>= fun a => .ok (f a)) = .error r ↔ x = .error r := by
  cases x with
  | error r' => exact ⟨fun h => congrArg _ (Except.error.inj h), fun h => h ▸ rfl⟩
  | ok a => exact ⟨nofun, nofun⟩

namespace Nesting

/-- Feeds tokens in order, up to the first one refused. -/
def feedAll (n : Nesting) : List Placed → Except Refusal Nesting
  | [] => .ok n
  | p :: ps => do
    let n' ← n.feed p
    n'.feedAll ps

lemma feedAll_cons_of_ok {n n' : Nesting} {p : Placed} (h : n.feed p = .ok n')
    (ps : List Placed) : n.feedAll (p :: ps) = n'.feedAll ps := by
  rw [feedAll, h]
  rfl

lemma feedAll_cons_of_error {n : Nesting} {p : Placed} {r : Refusal} (h : n.feed p = .error r)
    (ps : List Placed) : n.feedAll (p :: ps) = .error r := by
  rw [feedAll, h]
  rfl

theorem feedAll_append (n : Nesting) (ps qs : List Placed) :
    n.feedAll (ps ++ qs) = n.feedAll ps >>= fun n' => n'.feedAll qs := by
  induction ps generalizing n with
  | nil => rfl
  | cons p ps ih =>
    rw [List.cons_append, feedAll, feedAll, bind_assoc]
    exact bind_congr ih

end Nesting

lemma Cursor.exists_drain_cons {c : Cursor} (h : c.next.1.token ≠ .finish) :
    ∃ ps, c.drain.1 = c.next.1 :: ps := by
  cases hl : c.next.1.token.isLast with
  | true => exact ⟨[], by rw [drain_of_last hl, if_neg h]⟩
  | false => exact ⟨_, by rw [drain_of_more hl]⟩

/-- The place after a number of tokens. -/
def Cursor.after (c : Cursor) : Nat → Cursor
  | 0 => c
  | n + 1 => c.next.2.after n

namespace Nesting

/-- How many tokens are looked at: up to the first one refused, or all of them and the end. -/
def looks (n : Nesting) : List Placed → Nat
  | [] => 1
  | p :: ps =>
    match n.feed p with
    | .error _ => 1
    | .ok n' => n'.looks ps + 1

lemma looks_cons_of_ok {n n' : Nesting} {p : Placed} (h : n.feed p = .ok n') (ps : List Placed) :
    n.looks (p :: ps) = n'.looks ps + 1 := by
  rw [looks, h]

lemma looks_cons_of_error {n : Nesting} {p : Placed} {r : Refusal} (h : n.feed p = .error r)
    (ps : List Placed) : n.looks (p :: ps) = 1 := by
  rw [looks, h]

/-- Reading from a place on is feeding all tokens from there, then closing. It stops after the
tokens that have been looked at. -/
theorem read_eq (n : Nesting) (c : Cursor) :
    n.read c = (n.feedAll c.drain.1 >>= close, c.after (n.looks c.drain.1)) := by
  fun_induction n.read c with
  | case1 n c hf =>
    rw [Cursor.drain_of_last (by rw [hf]; rfl), if_pos hf]
    rfl
  | case2 n c hf r h =>
    obtain ⟨ps, hd⟩ := Cursor.exists_drain_cons hf
    rw [hd, feedAll_cons_of_error h, looks_cons_of_error h]
    rfl
  | case3 n c hf n' h _ ih =>
    rw [Cursor.drain_of_more (isLast_of_feed h hf), feedAll_cons_of_ok h, looks_cons_of_ok h, ih]
    rfl

end Nesting

theorem Expr.parse_eq (source : Text) :
    Expr.parse source = Nesting.start.feedAll (Token.stream source) >>= Nesting.close :=
  congrArg Prod.fst (Nesting.read_eq _ _)

def Connective.token : Connective → Token
  | and => .and
  | or => .or

def Connective.kind : Connective → Token.Kind
  | and => .and
  | or => .or

@[simp] theorem Scope.connective_kind (op : Connective) : Scope.connective op.kind = op := by
  cases op <;> rfl

lemma Connective.kind_injective {op op' : Connective} (h : op.kind = op'.kind) : op = op' := by
  cases op <;> cases op' <;> first | rfl | contradiction

/-- What is written in a scope, piece by piece; a piece can be a scope between parentheses. -/
inductive Formula
  | nil
  | label (l : Label) (rest : Formula)
  | operator (op : Connective) (rest : Formula)
  | scope (inner rest : Formula)
deriving DecidableEq, Repr

namespace Formula

def tokens : Formula → List Token
  | nil => []
  | label l rest => .label l :: rest.tokens
  | operator op rest => op.token :: rest.tokens
  | scope inner rest => .openParen :: (inner.tokens ++ .closeParen :: rest.tokens)

def append : Formula → Formula → Formula
  | nil, g => g
  | label l rest, g => label l (rest.append g)
  | operator op rest, g => operator op (rest.append g)
  | scope inner rest, g => scope inner (rest.append g)

@[simp] theorem tokens_append (f g : Formula) : (f.append g).tokens = f.tokens ++ g.tokens := by
  induction f with
  | nil => rfl
  | label l rest ih => simp [append, tokens, ih]
  | operator op rest ih => simp [append, tokens, ih]
  | scope inner rest _ ih => simp [append, tokens, ih]

/-- What a scope holds once a formula has been read into it. -/
def gather : Formula → Scope Label → Except Refusal (Scope Label)
  | nil, s => .ok s
  | label l rest, s => rest.gather (s.addLabel l)
  | operator op rest, s => do
    let s' ← s.setOperator op.kind
    rest.gather s'
  | scope inner rest, s => do
    let inside ← inner.gather .empty
    let t ← inside.build
    rest.gather (s.addNode t)

/-- The tree of a formula that is a whole text. -/
def build (f : Formula) : Except Refusal Expr := f.gather .empty >>= Scope.build

end Formula

namespace Nesting
variable {s : Scope Label} {outer : List (Scope Label)} {p : Placed}

lemma feed_label {l : Label} (h : p.token = .label l) :
    (⟨s, outer⟩ : Nesting).feed p = .ok ⟨s.addLabel l, outer⟩ := by
  simp [feed, h]

lemma feed_openParen (h : p.token = .openParen) :
    (⟨s, outer⟩ : Nesting).feed p = .ok ⟨.empty, s :: outer⟩ := by
  simp [feed, h]

lemma feed_operator {op : Connective} (h : p.token = op.token) :
    (⟨s, outer⟩ : Nesting).feed p = s.setOperator op.kind >>= fun s' => .ok ⟨s', outer⟩ := by
  cases op <;> simp only [feed, h, Connective.token, Connective.kind] <;> rfl

lemma feed_closeParen {around : Scope Label} (h : p.token = .closeParen) :
    (⟨s, around :: outer⟩ : Nesting).feed p =
      s.build >>= fun t => .ok ⟨around.addNode t, outer⟩ := by
  simp only [feed, h]
  rfl

/-- The tokens of a formula change the innermost scope only, as reading the formula does. -/
theorem feedAll_tokens (f : Formula) {ps : List Placed} (hp : ps.map Placed.token = f.tokens)
    (s : Scope Label) (outer : List (Scope Label)) :
    (⟨s, outer⟩ : Nesting).feedAll ps = f.gather s >>= fun s' => .ok ⟨s', outer⟩ := by
  induction f generalizing ps s outer with
  | nil =>
    obtain rfl := List.map_eq_nil_iff.mp hp
    rfl
  | label l rest ih =>
    obtain ⟨p, qs, rfl, h, hq⟩ := List.map_eq_cons_iff.mp hp
    rw [feedAll_cons_of_ok (feed_label h), ih hq, Formula.gather]
  | operator op rest ih =>
    obtain ⟨p, qs, rfl, h, hq⟩ := List.map_eq_cons_iff.mp hp
    rw [feedAll, feed_operator h, Formula.gather, bind_assoc, bind_assoc]
    apply bind_congr
    intro s'
    exact ih hq s' outer
  | scope inner rest ihInner ihRest =>
    obtain ⟨p, qs, rfl, hopen, hq⟩ := List.map_eq_cons_iff.mp hp
    obtain ⟨ins, after, rfl, hins, hafter⟩ := List.map_eq_append_iff.mp hq
    obtain ⟨q, more, rfl, hclose, hmore⟩ := List.map_eq_cons_iff.mp hafter
    rw [feedAll_cons_of_ok (feed_openParen hopen), feedAll_append, ihInner hins, Formula.gather]
    -- a refusal in brackets is one of the text, so both sides go on from the same inner scope
    simp only [bind_assoc]
    apply bind_congr
    intro inside
    show (⟨inside, s :: outer⟩ : Nesting).feedAll (q :: more) = _
    rw [feedAll, feed_closeParen hclose, bind_assoc]
    apply bind_congr
    intro t
    exact ihRest hmore (s.addNode t) outer

end Nesting

/-- A text with the brackets of a formula is parsed as the recursion over them says, refusals
included. -/
theorem Expr.parse_of_tokens {source : Text} {f : Formula} (h : f.tokens = Token.list source) :
    Expr.parse source = f.build := by
  rw [parse_eq, Nesting.start, Nesting.feedAll_tokens f h.symm, Formula.build]
  cases f.gather .empty <;> rfl

lemma Expr.parse_of_label {source : Text} {l : Label} (h : Token.list source = [.label l]) :
    Expr.parse source = .ok (.leaf l) := parse_of_tokens (f := .label l .nil) h.symm

end Clearance
