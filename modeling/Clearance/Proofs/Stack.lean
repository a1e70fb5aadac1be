import Clearance.Proofs.Formula

/-! Reading on a bare stack, where nothing vouches for a scope on top of it or for the children of a
group. Refusals apart, nothing of what could go wrong there does. -/
namespace Clearance

/-- What could go wrong on a bare stack: a refusal, a scope wanted where there is none, or a group
of fewer than two children. -/
inductive Mishap
  | refused (r : Refusal)
  | noScope
  | tooFew (op : Connective)
deriving DecidableEq, Repr

/-- A scope built without regard to its number of items before the group itself objects. -/
def Scope.collapse {α : Type} (s : Scope α) : Except Mishap (Tree α) :=
  match s.labels, s.nodes with
  | [], [] => .error (.refused (.malformed .missingOperator))
  | [a], [] => .ok (.leaf a)
  | [], [t] => .ok t
  | _, _ =>
    match s.operator with
    | none => .error (.refused (.malformed .missingOperator))
    | some kind =>
      match Tree.ofChildren? (connective kind) s.items with
      | some t => .ok t
      | none => .error (.tooFew (connective kind))

theorem Scope.collapse_eq {α : Type} (s : Scope α) :
    s.collapse = s.build.mapError Mishap.refused := by
  obtain ⟨nodes, labels, operator⟩ := s
  -- none, one or several of each kind of item
  rcases nodes with _ | ⟨t, _ | ⟨u, nodes⟩⟩ <;> rcases labels with _ | ⟨a, _ | ⟨b, labels⟩⟩ <;>
    cases operator <;> rfl

namespace Stack

/-- What a token does to the stack. Any kind of token that is not dealt with is unexpected. -/
def feed (stack : List (Scope Label)) (p : Placed) : Except Mishap (List (Scope Label)) :=
  match stack with
  | [] => .error .noScope
  | scope :: below =>
    match p.token with
    | .label l => .ok (scope.addLabel l :: below)
    | .openParen => .ok (.empty :: scope :: below)
    | .and => do
      let s ← (scope.setOperator .and).mapError .refused
      pure (s :: below)
    | .or => do
      let s ← (scope.setOperator .or).mapError .refused
      pure (s :: below)
    | .closeParen =>
      if stack.length = 1 then .error (.refused (.malformed .unmatchedClosing))
      else
        match below with
        | [] => .error .noScope
        | around :: outer => do
          let t ← scope.collapse
          pure (around.addNode t :: outer)
    | .stray c => .error (.refused (.stray c p.position))
    | other => .error (.refused (.malformed (.unexpected other.kind)))

def close (stack : List (Scope Label)) : Except Mishap Expr :=
  if stack.length ≠ 1 then .error (.refused (.malformed .unclosed))
  else
    match stack with
    | [] => .error .noScope
    | scope :: _ => scope.collapse

/-- Tokens up to the end of a text, read one by one. -/
def read : List (Scope Label) → List Placed → Except Mishap Expr
  | stack, [] => close stack
  | stack, p :: ps => do
    let stack' ← feed stack p
    read stack' ps

end Stack

namespace Nesting

/-- All scopes from the inside out, of which there is one at least. -/
def stack (n : Nesting) : List (Scope Label) := n.inner :: n.outer

/-- A token other than the end does to a bare stack what it does to a nesting. -/
lemma stack_feed {n : Nesting} {p : Placed} (hp : p.token ≠ .finish) :
    Stack.feed n.stack p = (n.feed p).mapError Mishap.refused >>= fun n' => .ok n'.stack := by
  obtain ⟨inner, outer⟩ := n
  unfold Stack.feed stack feed
  cases ht : p.token with
  | label l => rfl
  | openParen => rfl
  | closeParen =>
    cases outer with
    | nil => rfl
    | cons around outer =>
      simp only [List.length_cons]
      rw [if_neg (by omega), Scope.collapse_eq]
      cases inner.build <;> rfl
  | and =>
    dsimp only
    cases inner.setOperator .and <;> rfl
  | or =>
    dsimp only
    cases inner.setOperator .or <;> rfl
  | finish => exact absurd ht hp
  | stray c => rfl

lemma stack_close (n : Nesting) : Stack.close n.stack = n.close.mapError Mishap.refused := by
  obtain ⟨inner, outer⟩ := n
  unfold Stack.close stack close
  cases outer with
  | nil => exact inner.collapse_eq
  | cons s outer => rfl

lemma stack_read {ps : List Placed} (hp : ∀ p ∈ ps, p.token ≠ .finish) (n : Nesting) :
    Stack.read n.stack ps = (n.feedAll ps >>= close).mapError Mishap.refused := by
  induction ps generalizing n with
  | nil => exact n.stack_close
  | cons p ps ih =>
    obtain ⟨hfirst, hrest⟩ := List.forall_mem_cons.mp hp
    rw [Stack.read, stack_feed hfirst]
    cases hn : n.feed p with
    | error r =>
      rw [feedAll_cons_of_error hn]
      rfl
    | ok n' =>
      rw [feedAll_cons_of_ok hn]
      exact ih hrest n'

end Nesting

/-- No reading finds the stack empty, makes a group of fewer than two or meets a token of no use: it
gives the tree of the text or refuses it for the same reason. -/
theorem Expr.stack_read (source : Text) :
    Stack.read [.empty] (Token.stream source) =
      (Expr.parse source).mapError Mishap.refused := by
  rw [parse_eq]
  exact Nesting.stack_read (fun p hp => Cursor.ne_finish_of_mem_drain hp) Nesting.start

end Clearance
