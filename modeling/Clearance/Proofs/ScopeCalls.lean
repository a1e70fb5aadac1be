import Clearance.Proofs.Blame

/-! Scopes under calls in any order, some of which fail: what a scope holds after them, and what it
answers to one more. -/
namespace Clearance.Scope
variable {α : Type}

/-- What may fail part of the way. Whatever it did to the scope before that stays done. -/
abbrev Use (α β : Type) := ExceptT Mishap (StateM (Scope α)) β

/-- The first operator settles what joins the items, and any other is refused from then on. -/
def settle (kind : Token.Kind) : Use α Unit := do
  match (← get).operator with
  | none => modify fun s => { s with operator := some kind }
  | some declared => if declared ≠ kind then throw (.refused (.malformed .mixedOperators))

inductive Call (α : Type)
  | addLabel (item : α)
  | addNode (t : Tree α)
  | setOperator (kind : Token.Kind)
  | build

namespace Call

/-- A call that asks for the tree of a scope gets it, and the others get nothing. -/
def use : Call α → Use α (Option (Tree α))
  | addLabel item => do
    modify (·.addLabel item)
    pure none
  | addNode t => do
    modify (·.addNode t)
    pure none
  | setOperator kind => do
    settle kind
    pure none
  | build => do
    match (← get).collapse with
    | .ok t => pure (some t)
    | .error m => throw m

def label? : Call α → Option α
  | addLabel item => some item
  | _ => none

def node? : Call α → Option (Tree α)
  | addNode t => some t
  | _ => none

def kind? : Call α → Option Token.Kind
  | setOperator kind => some kind
  | _ => none

end Call

/-- What a call comes to, and the scope it leaves. -/
def call (s : Scope α) (c : Call α) : Except Mishap (Option (Tree α)) × Scope α :=
  c.use.run.run s

/-- A scope after some calls. -/
def after (s : Scope α) (cs : List (Call α)) : Scope α := cs.foldl (fun s c => (s.call c).2) s

variable (s : Scope α)

lemma call_addLabel (item : α) : s.call (.addLabel item) = (.ok none, s.addLabel item) := rfl

lemma call_addNode (t : Tree α) : s.call (.addNode t) = (.ok none, s.addNode t) := rfl

/-- An operator that is refused leaves the scope as it was. -/
lemma run_settle (kind : Token.Kind) : (settle kind).run.run s =
    match s.setOperator kind with
    | .ok s' => (.ok (), s')
    | .error r => (.error (.refused r), s) := by
  obtain ⟨nodes, labels, operator⟩ := s
  cases operator with
  | none => rfl
  | some declared =>
    show (ite (declared ≠ kind) (throw _) (pure ()) : Use α Unit).run.run _ = _
    by_cases h : declared = kind
    · have hs : setOperator ⟨nodes, labels, some declared⟩ kind =
          .ok ⟨nodes, labels, some declared⟩ := if_pos h
      rw [if_neg (not_not.mpr h), hs]
      rfl
    · have hs : setOperator ⟨nodes, labels, some declared⟩ kind =
          .error (.malformed .mixedOperators) := if_neg h
      rw [if_pos h, hs]
      rfl

lemma call_setOperator (kind : Token.Kind) : s.call (.setOperator kind) =
    match s.setOperator kind with
    | .ok s' => (.ok none, s')
    | .error r => (.error (.refused r), s) := by
  have h := s.run_settle kind
  unfold call Call.use
  cases hs : s.setOperator kind with
  | ok s' =>
    rw [hs] at h
    simp only [ExceptT.run_bind, StateT.run_bind, h]
    rfl
  | error r =>
    rw [hs] at h
    simp only [ExceptT.run_bind, StateT.run_bind, h]
    rfl

lemma call_build : s.call .build = (s.collapse.map some, s) := by
  show (match s.collapse with
    | .ok t => pure (some t)
    | .error m => throw m : Use α _).run.run s = _
  cases s.collapse <;> rfl

/-- All that a call does to a scope, whether it fails or not. -/
theorem scope_of_call (c : Call α) : (s.call c).2 =
    ⟨s.nodes ++ c.node?.toList, s.labels ++ c.label?.toList, s.operator.or c.kind?⟩ := by
  cases c with
  | addLabel item => simp [call_addLabel, addLabel, Call.node?, Call.label?, Call.kind?]
  | addNode t => simp [call_addNode, addNode, Call.node?, Call.label?, Call.kind?]
  | setOperator kind =>
    rw [call_setOperator, setOperator]
    obtain ⟨nodes, labels, operator⟩ := s
    cases operator with
    | none => simp [Call.node?, Call.label?, Call.kind?]
    | some declared =>
      by_cases h : declared = kind <;> simp [h, Call.node?, Call.label?, Call.kind?]
  | build => simp [call_build, Call.node?, Call.label?, Call.kind?]

theorem after_eq (cs : List (Call α)) : s.after cs =
    ⟨s.nodes ++ cs.filterMap Call.node?, s.labels ++ cs.filterMap Call.label?,
      s.operator.or (cs.filterMap Call.kind?).head?⟩ := by
  induction cs generalizing s with
  | nil => simp [after]
  | cons c cs ih =>
    show (s.call c).2.after cs = _
    rw [ih, scope_of_call]
    cases hn : c.node? <;> cases hl : c.label? <;> cases hk : c.kind? <;>
      simp [hn, hl, hk]

/-- An operator is refused if another has been declared, and only for that. -/
lemma call_setOperator_eq_error_iff (kind : Token.Kind) (m : Mishap) :
    (s.call (.setOperator kind)).1 = .error m ↔
      m = .refused (.malformed .mixedOperators) ∧ ∃ d, s.operator = some d ∧ d ≠ kind := by
  rw [call_setOperator, setOperator]
  cases s.operator with
  | none => simp
  | some declared =>
    by_cases h : declared = kind
    · simp [h]
    · simpa [h] using eq_comm

/-- There is nothing a scope is not built for but a refusal, and no group of fewer than two. -/
lemma call_build_eq_error_iff (m : Mishap) : (s.call .build).1 = .error m ↔
    m = .refused (.malformed .missingOperator) ∧
      (s.items.length = 0 ∨ 2 ≤ s.items.length ∧ s.operator = none) := by
  have herror (r : Refusal) := build_eq_error_iff (s := s) (r := r)
  rw [call_build, collapse_eq]
  cases hb : s.build with
  | ok t =>
    have hnone := (herror (.malformed .missingOperator)).not.mp (by simp [hb])
    simp only [true_and] at hnone
    exact ⟨nofun, fun h => absurd h.2 hnone⟩
  | error r =>
    obtain ⟨rfl, hlack⟩ := (herror r).mp hb
    constructor
    · intro h
      obtain rfl := Except.error.inj h
      exact ⟨rfl, hlack⟩
    · rintro ⟨rfl, _⟩
      rfl

/-- A call that fails leaves the scope as it was. -/
lemma scope_of_failed_call {c : Call α} {m : Mishap} (h : (s.call c).1 = .error m) :
    (s.call c).2 = s := by
  cases c with
  | addLabel item => contradiction
  | addNode t => contradiction
  | setOperator kind =>
    rw [call_setOperator] at h ⊢
    cases hs : s.setOperator kind with
    | ok s' =>
      rw [hs] at h
      contradiction
    | error r => rfl
  | build => rw [call_build]

/-- A scope holds what has been added to it, in order, and the operator set first. One that differs
from this is refused and changes nothing. Building changes nothing either: it gives the only item,
or fails for want of an item or of an operator, or else gives a group of two or more, sub-trees
first. -/
theorem built_by_calls (cs : List (Call α)) :
    let s := empty.after cs
    let first := (cs.filterMap Call.kind?).head?
    (s.nodes = cs.filterMap Call.node? ∧ s.labels = cs.filterMap Call.label? ∧
      s.operator = first) ∧
    (∀ kind m, (s.call (.setOperator kind)).1 = .error m ↔
      m = .refused (.malformed .mixedOperators) ∧ ∃ d, first = some d ∧ d ≠ kind) ∧
    (∀ c m, (s.call c).1 = .error m → (s.call c).2 = s) ∧
    (s.call .build).2 = s ∧
    (∀ m, (s.call .build).1 = .error m ↔ m = .refused (.malformed .missingOperator) ∧
      (s.items.length = 0 ∨ 2 ≤ s.items.length ∧ first = none)) ∧
    (∀ t, s.items = [t] → (s.call .build).1 = .ok (some t)) ∧
    ∀ kind, first = some kind → ∀ t u rest, s.items = t :: u :: rest →
      (s.call .build).1 = .ok (some (.group (if kind = .and then .and else .or) t u rest)) := by
  intro s first
  have hs : s = ⟨cs.filterMap Call.node?, cs.filterMap Call.label?, first⟩ := empty.after_eq cs
  have hop : s.operator = first := by rw [hs]
  have hbuild (t : Tree α) (h : s.build = .ok t) : (s.call .build).1 = .ok (some t) := by
    rw [call_build, collapse_eq, h]
    rfl
  refine ⟨⟨by rw [hs], by rw [hs], hop⟩,
    fun kind m => hop ▸ s.call_setOperator_eq_error_iff kind m,
    fun c m => s.scope_of_failed_call, by rw [call_build],
    fun m => hop ▸ s.call_build_eq_error_iff m, ?_, ?_⟩
  · intro t ht
    exact hbuild t (by rw [build, ht])
  · intro kind hkind t u rest hitems
    apply hbuild
    have hc : connective kind = if kind = .and then .and else .or := by cases kind <;> rfl
    rw [build, hitems, hop, hkind, ← hc]

/-- An operator that is no operator of expressions is declared after a build has failed. Then `and`
is refused, and the items are alternatives, the sub-tree before the label that was there first. -/
theorem built_by_calls_failing :
    let cs : List (Call Char) :=
      [.build, .setOperator .finish, .addLabel 'c', .setOperator .and, .addNode (.leaf 'a')]
    let s := empty.after cs
    s = ⟨[.leaf 'a'], ['c'], some .finish⟩ ∧
    (s.call (.setOperator .and)).1 = .error (.refused (.malformed .mixedOperators)) ∧
    (s.call (.setOperator .and)).2 = s ∧
    (s.call .build).1 = .ok (some (.group .or (.leaf 'a') (.leaf 'c') [])) := by
  intro cs s
  obtain ⟨⟨hnodes, hlabels, hop⟩, hset, hfailed, _, _, _, hgroup⟩ := built_by_calls cs
  have hmixed := (hset .and _).mpr ⟨rfl, .finish, rfl, by decide⟩
  exact ⟨rfl, hmixed, hfailed _ _ hmixed, hgroup .finish rfl _ _ _ rfl⟩

end Clearance.Scope
