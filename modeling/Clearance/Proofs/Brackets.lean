import Clearance.Proofs.Gathering

/-! Which parentheses of a list of tokens match, and which tokens stand in which scope. The lists
whose parentheses all match are the tokens of formulas, each of one formula only. -/
namespace Clearance

namespace Connective
variable (op : Connective)

@[simp] theorem token_inj {op op' : Connective} : op.token = op'.token ↔ op = op' := by
  cases op <;> cases op' <;> simp [token]

@[simp] theorem token_ne_label (l : Label) : op.token ≠ .label l := by cases op <;> simp [token]

@[simp] theorem token_ne_openParen : op.token ≠ .openParen := by cases op <;> simp [token]

@[simp] theorem token_ne_closeParen : op.token ≠ .closeParen := by cases op <;> simp [token]

@[simp] theorem token_ne_stray (c : Char) : op.token ≠ .stray c := by cases op <;> simp [token]

@[simp] theorem isLast_token : op.token.isLast = false := by cases op <;> rfl

end Connective

namespace Token

/-- Up to no place have more parentheses been closed than opened. -/
def OpensFirst (ts : List Token) : Prop :=
  ∀ s, s <+: ts → s.count .closeParen ≤ s.count .openParen

/-- Every parenthesis has its partner. -/
structure Balanced (ts : List Token) : Prop where
  opensFirst : OpensFirst ts
  count_eq : ts.count .closeParen = ts.count .openParen

lemma OpensFirst.of_append {ts us : List Token} (h : OpensFirst (ts ++ us)) : OpensFirst ts :=
  fun s hs => h s (hs.trans (List.prefix_append ts us))

lemma balanced_nil : Balanced [] := ⟨by simp [OpensFirst], rfl⟩

lemma balanced_singleton {t : Token} (ho : t ≠ .openParen) (hc : t ≠ .closeParen) :
    Balanced [t] := by
  constructor
  · intro s hs
    have hnone : s.count .closeParen = 0 := by
      apply List.count_eq_zero.mpr
      intro hm
      exact hc (List.mem_singleton.mp (hs.subset hm)).symm
    omega
  · simp [ho, hc]

lemma Balanced.append {ts us : List Token} (h : Balanced ts) (h' : Balanced us) :
    Balanced (ts ++ us) := by
  constructor
  · intro s hs
    obtain hs | hs := List.prefix_or_prefix_of_prefix hs (List.prefix_append ts us)
    · exact h.opensFirst s hs
    · obtain ⟨q, rfl⟩ := hs
      have hq := h'.opensFirst q ((List.prefix_append_right_inj ts).mp hs)
      have ht := h.count_eq
      simp only [List.count_append]
      omega
  · simp only [List.count_append, h.count_eq, h'.count_eq]

lemma Balanced.enclose {ts : List Token} (h : Balanced ts) :
    Balanced (.openParen :: (ts ++ [.closeParen])) := by
  constructor
  · intro s hs
    obtain rfl | ⟨q, rfl, hq⟩ := List.prefix_cons_iff.mp hs
    · simp
    · have ht := h.count_eq
      obtain rfl | hq := List.prefix_concat_iff.mp hq
      · simp
        omega
      · have hle := h.opensFirst q hq
        simp
        omega
  · simp [h.count_eq]

/-- A list with a parenthesis left open does not match, even if what follows does. -/
lemma Balanced.ne_append_openParen {ts us : List Token} (h : Balanced ts) (h' : Balanced us)
    (s : List Token) : ts ≠ s ++ .openParen :: us := by
  rintro rfl
  have hs := h.opensFirst s (List.prefix_append s _)
  have ht := h.count_eq
  have hu := h'.count_eq
  simp at ht
  omega

/-- Where all parentheses have their partners, none can be closed. -/
lemma Balanced.not_opensFirst_append_closeParen {ts us : List Token} (h : Balanced ts) :
    ¬ OpensFirst (ts ++ .closeParen :: us) := by
  intro ho
  have hs := ho (ts ++ [.closeParen]) ⟨us, by simp⟩
  have ht := h.count_eq
  simp at hs
  omega

/-- What stands between an opening parenthesis and the one that closes it. -/
def Enclosed (ts content : List Token) : Prop :=
  Balanced content ∧ ∃ before after, ts = before ++ .openParen :: (content ++ .closeParen :: after)

/-- What stands after the innermost parenthesis that is still open. -/
def Unclosed (ts content : List Token) : Prop :=
  Balanced content ∧ ∃ before, ts = before ++ .openParen :: content

/-- The tokens outside all parentheses, each pair of those told by its opening one. The depth says
how many parentheses are open already. -/
def outside : Nat → List Token → List Token
  | _, [] => []
  | 0, .openParen :: ts => .openParen :: outside 1 ts
  | depth + 1, .openParen :: ts => outside (depth + 2) ts
  | depth, .closeParen :: ts => outside (depth - 1) ts
  | 0, t :: ts => t :: outside 0 ts
  | depth + 1, _ :: ts => outside (depth + 1) ts

/-- The tokens directly in a scope; an opening parenthesis stands for the scope that it opens. -/
def direct (content : List Token) : List Token := outside 0 content

def isItem : Token → Bool
  | label _ => true
  | openParen => true
  | _ => false

def isOperator : Token → Bool
  | and => true
  | or => true
  | _ => false

/-- How many labels and scopes stand directly in a scope. -/
def items (content : List Token) : Nat := (direct content).countP isItem

/-- The operators directly in a scope, in written order. -/
def operators (content : List Token) : List Token := (direct content).filter isOperator

end Token

namespace Formula

theorem balanced_tokens (f : Formula) : Token.Balanced f.tokens := by
  induction f with
  | nil => exact Token.balanced_nil
  | label l rest ih => exact (Token.balanced_singleton (by simp) (by simp)).append ih
  | operator op rest ih =>
    exact (Token.balanced_singleton op.token_ne_openParen op.token_ne_closeParen).append ih
  | scope inner rest ihInner ihRest => simpa [tokens] using ihInner.enclose.append ihRest

lemma isLast_of_mem_tokens {f : Formula} {t : Token} (h : t ∈ f.tokens) : t.isLast = false := by
  induction f with
  | nil => simp [tokens] at h
  | label l rest ih =>
    obtain rfl | h := List.mem_cons.mp h
    · rfl
    · exact ih h
  | operator op rest ih =>
    obtain rfl | h := List.mem_cons.mp h
    · exact op.isLast_token
    · exact ih h
  | scope inner rest ihInner ihRest =>
    simp only [tokens, List.mem_cons, List.mem_append] at h
    obtain rfl | h | rfl | h := h
    · rfl
    · exact ihInner h
    · rfl
    · exact ihRest h

/-- The tokens of a formula can be written as a text. -/
lemma spelled_of_mem_tokens {f : Formula} (h : ∀ l ∈ f.labels, Label.wellEscaped l = true) :
    ∀ t ∈ f.tokens, t.Spelled t.spelling := by
  intro t ht
  apply Token.spelled_spelling (isLast_of_mem_tokens ht)
  rintro l rfl
  exact h l (label_mem_tokens_iff.mp ht)

/-- What stands directly in a scope. -/
def direct : Formula → List Token
  | nil => []
  | label l rest => .label l :: rest.direct
  | operator op rest => op.token :: rest.direct
  | scope _ rest => .openParen :: rest.direct

lemma outside_succ_tokens (f : Formula) (depth : Nat) (rest : List Token) :
    Token.outside (depth + 1) (f.tokens ++ rest) = Token.outside (depth + 1) rest := by
  induction f generalizing depth rest with
  | nil => rfl
  | label l more ih => exact ih depth rest
  | operator op more ih => cases op <;> exact ih depth rest
  | scope inner more ihInner ihMore =>
    have hin := ihInner (depth + 1) (.closeParen :: (more.tokens ++ rest))
    simp only [tokens, List.cons_append, List.append_assoc, Token.outside]
    rw [hin]
    exact ihMore depth rest

lemma outside_zero_tokens (f : Formula) (rest : List Token) :
    Token.outside 0 (f.tokens ++ rest) = f.direct ++ Token.outside 0 rest := by
  induction f generalizing rest with
  | nil => rfl
  | label l more ih => exact congrArg (Token.label l :: ·) (ih rest)
  | operator op more ih => cases op <;> exact congrArg (_ :: ·) (ih rest)
  | scope inner more _ ihMore =>
    have hin := inner.outside_succ_tokens 0 (.closeParen :: (more.tokens ++ rest))
    simp only [tokens, List.cons_append, List.append_assoc, Token.outside, direct]
    rw [hin]
    exact congrArg (Token.openParen :: ·) (ihMore rest)

@[simp] theorem direct_tokens (f : Formula) : Token.direct f.tokens = f.direct := by
  simpa [Token.direct, Token.outside] using outside_zero_tokens f []

example : Token.direct [.label ['a'], .and, .openParen, .label ['b'], .or, .closeParen, .or] =
    [.label ['a'], .and, .openParen, .or] := by decide

@[simp] theorem items_tokens (f : Formula) : Token.items f.tokens = f.size := by
  rw [Token.items, direct_tokens]
  induction f with
  | nil => rfl
  | label l rest ih => simp [direct, List.countP_cons, Token.isItem, size, ih]
  | operator op rest ih =>
    cases op <;> simp [direct, Connective.token, Token.isItem, size, ih]
  | scope inner rest _ ih => simp [direct, List.countP_cons, Token.isItem, size, ih]

@[simp] theorem operators_tokens (f : Formula) :
    Token.operators f.tokens = f.operators.map Connective.token := by
  rw [Token.operators, direct_tokens]
  induction f with
  | nil => rfl
  | label l rest ih => simpa [direct, Token.isOperator, operators] using ih
  | operator op rest ih =>
    cases op <;>
      simpa [direct, Connective.token, List.filter_cons, Token.isOperator, operators] using ih
  | scope inner rest _ ih => simpa [direct, Token.isOperator, operators] using ih

end Formula

namespace Nesting

/-- What has been read into the open scopes, from the inside out. -/
def readTokens (f : Formula) : List Formula → List Token
  | [] => f.tokens
  | g :: around => readTokens g around ++ .openParen :: f.tokens

lemma readTokens_append (f g : Formula) (around : List Formula) :
    readTokens (f.append g) around = readTokens f around ++ g.tokens := by
  cases around <;> simp [readTokens]

lemma count_readTokens (f : Formula) (around : List Formula) :
    (readTokens f around).count .openParen =
      (readTokens f around).count .closeParen + around.length := by
  induction around generalizing f with
  | nil => exact f.balanced_tokens.count_eq.symm
  | cons g around ih =>
    have hg := ih g
    have hf := f.balanced_tokens.count_eq
    simp [readTokens]
    omega

/-- One more token extends the formula of the innermost scope, opens a scope or closes one. -/
lemma exists_readTokens_snoc {t : Token} (ht : t.isLast = false) {f : Formula}
    {around : List Formula} (hclose : t = .closeParen → around ≠ []) :
    ∃ f' around', readTokens f' around' = readTokens f around ++ [t] := by
  cases t with
  | label l => exact ⟨f.append (.label l .nil), around, readTokens_append ..⟩
  | openParen => exact ⟨.nil, f :: around, rfl⟩
  | closeParen =>
    obtain ⟨g, around, rfl⟩ := List.exists_cons_of_ne_nil (hclose rfl)
    refine ⟨g.append (.scope f .nil), around, ?_⟩
    simp [readTokens_append, readTokens, Formula.tokens]
  | and => exact ⟨f.append (.operator .and .nil), around, readTokens_append ..⟩
  | or => exact ⟨f.append (.operator .or .nil), around, readTokens_append ..⟩
  | finish => contradiction
  | stray c => contradiction

/-- Tokens that close nothing they have not opened are read into some open scopes. -/
theorem exists_readTokens {ts : List Token} (hl : ∀ t ∈ ts, t.isLast = false)
    (ho : Token.OpensFirst ts) : ∃ f around, readTokens f around = ts := by
  induction ts using List.reverseRecOn with
  | nil => exact ⟨.nil, [], rfl⟩
  | append_singleton ts t ih =>
    have hlast : t.isLast = false := hl t (by simp)
    obtain ⟨f, around, rfl⟩ := ih (fun u hu => hl u (by simp [hu])) ho.of_append
    apply exists_readTokens_snoc hlast
    rintro rfl rfl
    exact f.balanced_tokens.not_opensFirst_append_closeParen ho

end Nesting

namespace Formula
open Nesting (readTokens count_readTokens exists_readTokens)

/-- Tokens whose parentheses match are those of a formula. -/
theorem exists_of_balanced {ts : List Token} (hl : ∀ t ∈ ts, t.isLast = false)
    (hb : Token.Balanced ts) : ∃ f : Formula, f.tokens = ts := by
  obtain ⟨f, around, rfl⟩ := exists_readTokens hl hb.opensFirst
  have hc := count_readTokens f around
  have hnone : around = [] := List.length_eq_zero_iff.mp (by have := hb.count_eq; omega)
  exact ⟨f, by rw [hnone]; rfl⟩

/-- What comes after the contents of a scope: the end of the scope, or of the text. -/
def Stops (s : List Token) : Prop := ∀ t ∈ s.head?, t = .closeParen

lemma tokens_append_injective {f g : Formula} {s s' : List Token} (hs : Stops s) (hs' : Stops s')
    (h : f.tokens ++ s = g.tokens ++ s') : f = g ∧ s = s' := by
  induction f generalizing g s s' with
  | nil =>
    cases g with
    | nil => exact ⟨rfl, h⟩
    | _ => simp [Stops, show s = _ from h, tokens] at hs
  | label l rest ih =>
    cases g with
    | nil => simp [Stops, ← show _ = s' from h, tokens] at hs'
    | label k more =>
      obtain ⟨hl, hr⟩ := List.cons.inj h
      obtain ⟨rfl, rfl⟩ := ih hs hs' hr
      exact ⟨by rw [Token.label.inj hl], rfl⟩
    | operator op more => exact absurd (List.cons.inj h).1.symm (op.token_ne_label l)
    | scope inner more => exact absurd (List.cons.inj h).1 (by simp)
  | operator op rest ih =>
    cases g with
    | nil => simp [Stops, ← show _ = s' from h, tokens] at hs'
    | label k more => exact absurd (List.cons.inj h).1 (op.token_ne_label k)
    | operator op' more =>
      obtain ⟨ho, hr⟩ := List.cons.inj h
      obtain ⟨rfl, rfl⟩ := ih hs hs' hr
      exact ⟨by rw [Connective.token_inj.mp ho], rfl⟩
    | scope inner more => exact absurd (List.cons.inj h).1 op.token_ne_openParen
  | scope inner rest ihInner ihRest =>
    cases g with
    | nil => simp [Stops, ← show _ = s' from h, tokens] at hs'
    | label k more => exact absurd (List.cons.inj h).1 (by simp)
    | operator op' more => exact absurd (List.cons.inj h).1.symm op'.token_ne_openParen
    | scope inner' more =>
      simp only [tokens, List.cons_append, List.append_assoc, List.cons.injEq, true_and] at h
      obtain ⟨rfl, hr⟩ := ihInner (by simp [Stops]) (by simp [Stops]) h
      obtain ⟨rfl, rfl⟩ := ihRest hs hs' (List.cons.inj hr).2
      exact ⟨rfl, rfl⟩

/-- A list of tokens has one bracket structure at most. -/
theorem tokens_injective {f g : Formula} (h : f.tokens = g.tokens) : f = g := by
  have hnil : Stops [] := by simp [Stops]
  exact (tokens_append_injective hnil hnil (by rw [h])).1

/-- The scopes in parentheses, at any depth. -/
def scopes : Formula → List Formula
  | nil => []
  | label _ rest => rest.scopes
  | operator _ rest => rest.scopes
  | scope inner rest => inner :: (inner.scopes ++ rest.scopes)

lemma enclosed_of_mem_scopes {f g : Formula} (h : g ∈ f.scopes) :
    Token.Enclosed f.tokens g.tokens := by
  refine ⟨g.balanced_tokens, ?_⟩
  induction f with
  | nil => simp [scopes] at h
  | label l rest ih =>
    obtain ⟨before, after, ht⟩ := ih h
    exact ⟨.label l :: before, after, by rw [tokens, ht]; rfl⟩
  | operator op rest ih =>
    obtain ⟨before, after, ht⟩ := ih h
    exact ⟨op.token :: before, after, by rw [tokens, ht]; rfl⟩
  | scope inner rest ihInner ihRest =>
    obtain rfl | h := List.mem_cons.mp h
    · exact ⟨[], rest.tokens, rfl⟩
    · obtain h | h := List.mem_append.mp h
      · obtain ⟨before, after, ht⟩ := ihInner h
        exact ⟨.openParen :: before, after ++ .closeParen :: rest.tokens, by simp [tokens, ht]⟩
      · obtain ⟨before, after, ht⟩ := ihRest h
        exact ⟨.openParen :: (inner.tokens ++ .closeParen :: before), after, by simp [tokens, ht]⟩

/-- Parentheses that match stand within a formula or after it, never across its end. -/
lemma mem_scopes_of_tokens {f g : Formula} {s before after : List Token}
    (h : f.tokens ++ s = before ++ .openParen :: (g.tokens ++ .closeParen :: after)) :
    g ∈ f.scopes ∨ ∃ before', s = before' ++ .openParen :: (g.tokens ++ .closeParen :: after) := by
  induction f generalizing s before with
  | nil => exact .inr ⟨before, h⟩
  | label l rest ih =>
    cases before with
    | nil => exact absurd (List.cons.inj h).1 (by simp)
    | cons t before => exact ih (List.cons.inj h).2
  | operator op rest ih =>
    cases before with
    | nil => exact absurd (List.cons.inj h).1 op.token_ne_openParen
    | cons t before => exact ih (List.cons.inj h).2
  | scope inner rest ihInner ihRest =>
    simp only [tokens, List.cons_append, List.append_assoc] at h
    cases before with
    | nil =>
      obtain ⟨rfl, _⟩ := tokens_append_injective (by simp [Stops]) (by simp [Stops])
        (List.cons.inj h).2
      exact .inl (by simp [scopes])
    | cons t before =>
      obtain hin | ⟨before', hs⟩ := ihInner (List.cons.inj h).2
      · exact .inl (by simp [scopes, hin])
      · cases before' with
        | nil => exact absurd (List.cons.inj hs).1 (by simp)
        | cons u before' =>
          obtain hrest | hafter := ihRest (List.cons.inj hs).2
          · exact .inl (by simp [scopes, hrest])
          · exact .inr hafter

/-- The scopes of a formula are those that matching parentheses enclose. -/
theorem enclosed_tokens_iff {f : Formula} {content : List Token} :
    Token.Enclosed f.tokens content ↔ ∃ g ∈ f.scopes, g.tokens = content := by
  constructor
  · rintro ⟨hb, before, after, h⟩
    have hl : ∀ t ∈ content, t.isLast = false := by
      intro t ht
      exact isLast_of_mem_tokens (f := f) (by simp [h, ht])
    obtain ⟨g, rfl⟩ := exists_of_balanced hl hb
    obtain hg | ⟨before', hs⟩ := mem_scopes_of_tokens (s := []) (by simpa using h)
    · exact ⟨g, hg, rfl⟩
    · simp at hs
  · rintro ⟨g, hg, rfl⟩
    exact enclosed_of_mem_scopes hg

/-- The innermost open scope is the one being read. -/
theorem unclosed_readTokens_iff {f : Formula} {around : List Formula} {content : List Token} :
    Token.Unclosed (readTokens f around) content ↔ around ≠ [] ∧ content = f.tokens := by
  have hf := f.balanced_tokens
  constructor
  · rintro ⟨hb, before, h⟩
    cases around with
    | nil => exact absurd h (hf.ne_append_openParen hb before)
    | cons g around =>
      refine ⟨by simp, ?_⟩
      -- of two open parentheses the later one would have no match in what follows the earlier
      obtain ⟨s, _, hs⟩ | ⟨s, _, hs⟩ := List.append_eq_append_iff.mp h
      · cases s with
        | nil => exact (List.cons.inj hs).2.symm
        | cons t s => exact absurd (List.cons.inj hs).2 (hf.ne_append_openParen hb s)
      · cases s with
        | nil => exact (List.cons.inj hs).2
        | cons t s => exact absurd (List.cons.inj hs).2 (hb.ne_append_openParen hf s)
  · rintro ⟨hne, rfl⟩
    obtain ⟨g, around, rfl⟩ := List.exists_cons_of_ne_nil hne
    exact ⟨hf, readTokens g around, rfl⟩

end Formula

end Clearance
