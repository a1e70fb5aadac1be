import Clearance.Proofs.ShortCircuit

/-! The truth of an expression, by recursion over its tree, is what the stack walk finds. -/
namespace Clearance

namespace Connective

/-- `and` asks for every value to be true, `or` for one of them. -/
def join : Connective → List Bool → Bool
  | and, values => values.all id
  | or, values => values.any id

@[simp] theorem join_nil (op : Connective) : op.join [] = op.unsettled := by cases op <;> rfl

lemma join_cons_of_settled {op : Connective} {v : Bool} (h : op.settledBy v = true)
    (vs : List Bool) : op.join (v :: vs) = v := by
  cases op <;> simp_all [settledBy, join]

lemma join_cons_of_open {op : Connective} {v : Bool} (h : op.settledBy v = false)
    (vs : List Bool) : op.join (v :: vs) = op.join vs := by
  cases op <;> simp_all [settledBy, join]

/-- The order of the values is of no account. -/
theorem join_perm (op : Connective) {vs ws : List Bool} (h : vs.Perm ws) :
    op.join vs = op.join ws := by
  cases op with
  | and => exact h.all_eq
  | or => exact h.any_eq

end Connective

namespace Expr

mutual
/-- A label is true when it is held, a group when its connective says so of its children. -/
def truth (held : Label → Bool) : Expr → Bool
  | .leaf l => held l
  | .group op first second rest =>
    op.join (truth held first :: truth held second :: truths held rest)

def truths (held : Label → Bool) : List Expr → List Bool
  | [] => []
  | e :: es => truth held e :: truths held es
end

@[simp] theorem truths_eq (held : Label → Bool) (es : List Expr) :
    truths held es = es.map (truth held) := by
  induction es with
  | nil => rfl
  | cons e es ih => simp [truths, ih]

@[simp] theorem truth_leaf (held : Label → Bool) (l : Label) : truth held (.leaf l) = held l := by
  simp [truth]

@[simp] theorem truth_group (held : Label → Bool) (op : Connective) (s t : Expr)
    (rest : List Expr) :
    truth held (.group op s t rest) = op.join ((s :: t :: rest).map (truth held)) := by
  simp [truth]

lemma truth_ofChildren (held : Label → Bool) (op : Connective) (es : List Expr)
    (h : 2 ≤ es.length) : truth held (Tree.ofChildren op es h) = op.join (es.map (truth held)) := by
  obtain ⟨first, second, rest, rfl⟩ := Tree.exists_of_two_le h
  exact truth_group held op first second rest

/-- Moving groups before leaves changes no value. -/
@[simp] theorem truth_canon (held : Label → Bool) (e : Expr) :
    truth held e.canon = truth held e := by
  induction e using Tree.induction with
  | leaf l => simp
  | group op first second rest ih =>
    rw [Tree.canon_group, truth_ofChildren, truth_group]
    have hsort :=
      (Tree.groupsFirst_perm ((first :: second :: rest).map Tree.canon)).map (truth held)
    rw [op.join_perm hsort, List.map_map]
    exact congrArg op.join (List.map_congr_left ih)

@[simp] theorem draft_leaf (l : Label) : draft (.leaf l) = .leaf (.label l) := by
  simp [draft, Tree.map]

@[simp] theorem draft_group (op : Connective) (s t : Expr) (rest : List Expr) :
    draft (.group op s t rest) = .group op s.draft t.draft (rest.map draft) := by
  simp [draft, Tree.map]

lemma leaves_draft (e : Expr) : e.draft.leaves = e.leaves.map .label := by
  induction e using Tree.induction with
  | leaf l => simp [Tree.leaves]
  | group op first second rest ih =>
    rw [draft_group, Tree.leaves_group, Tree.leaves_group, ← List.map_cons, ← List.map_cons,
      List.flatMap_map, List.map_flatMap]
    exact List.flatMap_congr ih

end Expr

namespace Draft

@[simp] theorem isNull_draft (e : Expr) : isNull e.draft = false := by
  cases e with
  | leaf l => rw [Expr.draft_leaf, isNull]; nofun
  | group op first second rest => rw [Expr.draft_group, isNull]; nofun

lemma present_drafts (es : List Expr) : present (es.map Expr.draft) = es.map Expr.draft := by
  apply List.takeWhile_eq_self_iff.mpr
  simp

/-- Walks that all end with a value are joined to the value of their group. -/
lemma Walk.outcome_join {α : Type} {f : α → Walk} {g : α → Bool} {as : List α}
    (h : ∀ a ∈ as, (f a).outcome = .ok (g a)) (op : Connective) :
    (Walk.join op (as.map f)).outcome = .ok (op.join (as.map g)) := by
  induction as with
  | nil => rw [List.map_nil, List.map_nil, Walk.join_nil, Connective.join_nil]
  | cons a as ih =>
    obtain ⟨hfirst, hrest⟩ := List.forall_mem_cons.mp h
    rw [List.map_cons, List.map_cons]
    cases hv : op.settledBy (g a) with
    | true => rw [Walk.join_of_settled hfirst hv, Connective.join_cons_of_settled hv, hfirst]
    | false =>
      rw [Walk.join_of_open hfirst hv, Connective.join_cons_of_open hv]
      exact ih hrest

/-- A walk over an expression never meets a foreign value, and ends with the truth. -/
lemma outcome_visit_draft (held : Label → Bool) (e : Expr) :
    (visit held e.draft).outcome = .ok (e.truth held) := by
  induction e using Tree.induction with
  | leaf l => rw [Expr.draft_leaf, visit_label, Expr.truth_leaf]
  | group op first second rest ih =>
    rw [Expr.draft_group, visit_group, ← List.map_cons, ← List.map_cons, present_drafts,
      List.map_map, Expr.truth_group]
    exact Walk.outcome_join ih op

theorem outcome_evaluate_draft (held : Label → Bool) (e : Expr) :
    (evaluate held e.draft).outcome = .ok (e.truth held) := by
  rw [evaluate_eq_visit, outcome_visit_draft]

end Draft

@[simp] theorem Expr.evaluate_eq_truth (e : Expr) (held : Label → Bool) :
    e.evaluate held = e.truth held := by
  rw [Expr.evaluate, Draft.outcome_evaluate_draft]

end Clearance
