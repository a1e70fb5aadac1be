import Clearance.Proofs.Meaning
import Mathlib.Data.List.Flatten

/-! What the value of a draft depends on: the labels that are looked up for it and nothing else. -/
namespace Clearance.Draft

/-- Evaluation is the one function that looks a label up, refuses a value that is no node, and of
the children of a group up to the first null joins what they come to, until one of them settles the
group or is refused. -/
theorem eq_evaluate_iff (mapping : Label → Option Value) (f : Draft → Walk) :
    f = evaluate (Label.granted mapping) ↔
      (∀ l, f (.leaf (.label l)) = ⟨.ok ((mapping l).any Value.truthy), [l]⟩) ∧
      (∀ v, f (.leaf (.foreign v)) = ⟨.error v, []⟩) ∧
      ∀ op first second rest, f (.group op first second rest) =
        .join op ((present (first :: second :: rest)).map f) := by
  have hvisit : evaluate (Label.granted mapping) = visit (Label.granted mapping) :=
    funext (evaluate_eq_visit _)
  rw [hvisit]
  constructor
  · rintro rfl
    exact ⟨visit_label _, visit_foreign _, visit_group _⟩
  · rintro ⟨hlabel, hforeign, hgroup⟩
    -- the equations determine the function, since the children that are visited are smaller
    funext t
    induction t using Tree.induction with
    | leaf a =>
      cases a with
      | label l => rw [hlabel, visit_label, Label.granted]
      | foreign v => rw [hforeign, visit_foreign]
    | group op first second rest ih =>
      rw [hgroup, visit_group]
      refine congrArg (Walk.join op) (List.map_congr_left ?_)
      exact fun t ht => ih t (present_subset _ ht)

namespace Walk

/-- What is looked up for the first child of a group is looked up for the group. -/
lemma lookups_prefix_join (op : Connective) (w : Walk) (ws : List Walk) :
    w.lookups <+: (join op (w :: ws)).lookups := by
  cases h : w.outcome with
  | error r => exact ⟨[], by rw [join_of_refused h, List.append_nil]⟩
  | ok v =>
    cases hv : op.settledBy v with
    | true => exact ⟨[], by rw [join_of_settled h hv, List.append_nil]⟩
    | false =>
      rw [join_of_open h hv]
      exact List.prefix_append _ _

lemma lookups_join_sublist (op : Connective) (ws : List Walk) :
    (join op ws).lookups.Sublist (ws.flatMap lookups) := by
  induction ws with
  | nil => exact List.nil_sublist _
  | cons w ws ih =>
    rw [List.flatMap_cons]
    cases h : w.outcome with
    | error r =>
      rw [join_of_refused h]
      exact List.sublist_append_left _ _
    | ok v =>
      cases hv : op.settledBy v with
      | true =>
        rw [join_of_settled h hv]
        exact List.sublist_append_left _ _
      | false =>
        rw [join_of_open h hv]
        exact ih.append_left w.lookups

/-- Groups are joined alike if the children that are visited in one of them come to the same in the
other. -/
lemma join_congr {f g : Draft → Walk} {p : Label → Prop} {ts : List Draft}
    (h : ∀ t ∈ ts, (∀ l ∈ (f t).lookups, p l) → g t = f t) {op : Connective}
    (hp : ∀ l ∈ (join op (ts.map f)).lookups, p l) :
    join op (ts.map g) = join op (ts.map f) := by
  induction ts with
  | nil => rfl
  | cons t ts ih =>
    obtain ⟨hfirst, hrest⟩ := List.forall_mem_cons.mp h
    rw [List.map_cons] at hp
    have hsame : g t = f t :=
      hfirst fun l hl => hp l ((lookups_prefix_join op (f t) (ts.map f)).subset hl)
    rw [List.map_cons, List.map_cons, hsame]
    cases ho : (f t).outcome with
    | error r => rw [join_of_refused ho, join_of_refused ho]
    | ok v =>
      cases hv : op.settledBy v with
      | true => rw [join_of_settled ho hv, join_of_settled ho hv]
      | false =>
        rw [join_of_open ho hv] at hp
        have hmore : ∀ l ∈ (join op (ts.map f)).lookups, p l :=
          fun l hl => hp l (List.mem_append_right _ hl)
        rw [join_of_open ho hv, join_of_open ho hv, ih hrest hmore]

end Walk

section Visit
variable {held other : Label → Bool}

lemma visit_congr {t : Draft} (h : ∀ l ∈ (t.visit held).lookups, other l = held l) :
    t.visit other = t.visit held := by
  induction t using Tree.induction with
  | leaf a =>
    cases a with
    | label l => rw [visit_label, visit_label, h l (by simp)]
    | foreign v => rw [visit_foreign, visit_foreign]
  | group op first second rest ih =>
    rw [visit_group] at h
    rw [visit_group, visit_group]
    exact Walk.join_congr (fun t ht => ih t (present_subset _ ht)) h

/-- Leaves are looked up from left to right, though not all of them. -/
lemma lookups_visit_sublist (held : Label → Bool) (t : Draft) :
    ((t.visit held).lookups.map Entry.label).Sublist t.leaves := by
  induction t using Tree.induction with
  | leaf a => cases a <;> simp [Tree.leaves]
  | group op first second rest ih =>
    let ts := first :: second :: rest
    have hjoin := (Walk.lookups_join_sublist op ((present ts).map (visit held))).map Entry.label
    rw [List.flatMap_map, List.map_flatMap] at hjoin
    have hbelow : ((present ts).flatMap fun t => (t.visit held).lookups.map Entry.label).Sublist
        ((present ts).flatMap Tree.leaves) :=
      List.Sublist.flatMap_right _ fun t ht => ih t (present_subset _ ht)
    have hpresent : ((present ts).flatMap Tree.leaves).Sublist (ts.flatMap Tree.leaves) :=
      (List.takeWhile_sublist _).flatMap _
    rw [visit_group, Tree.leaves_group]
    exact hjoin.trans (hbelow.trans hpresent)

end Visit

/-- Mappings that agree on the labels looked up under one of them lead to the same end, and to the
same labels looked up in the same order, which is the order of the leaves. -/
theorem evaluate_of_agree {mapping other : Label → Option Value} {t : Draft}
    (h : ∀ l ∈ (t.evaluate (Label.granted mapping)).lookups,
      Label.granted other l = Label.granted mapping l) :
    (t.evaluate (Label.granted other)).outcome = (t.evaluate (Label.granted mapping)).outcome ∧
      (t.evaluate (Label.granted other)).lookups = (t.evaluate (Label.granted mapping)).lookups ∧
      ((t.evaluate (Label.granted mapping)).lookups.map Entry.label).Sublist t.leaves := by
  rw [evaluate_eq_visit] at h
  rw [evaluate_eq_visit, evaluate_eq_visit, visit_congr h]
  exact ⟨rfl, rfl, lookups_visit_sublist _ t⟩

/-- Two groups are settled by a label in front, and the mappings differ on the label after it and in
the values of those that are looked up. -/
theorem evaluate_of_agree_settled :
    let t : Draft := .group .and
      (.group .or (.leaf (.label ['a'])) (.leaf (.label ['b'])) [])
      (.group .and (.leaf (.label ['c'])) (.leaf (.label ['a'])) [])
      [.leaf (.label ['b']), .leaf (.foreign .null)]
    let mapping : Label → Option Value := fun l => if l = ['a'] then some (.int 1) else none
    let other : Label → Option Value := fun l =>
      if l = ['c'] then some (.str "") else some (.str "0")
    (∀ l ∈ (t.evaluate (Label.granted mapping)).lookups,
      Label.granted other l = Label.granted mapping l) ∧
    Label.granted other ['b'] ≠ Label.granted mapping ['b'] ∧
    (t.evaluate (Label.granted other)).outcome = .ok false ∧
    (t.evaluate (Label.granted other)).lookups = [['a'], ['c']] := by
  intro t mapping other
  have hw : t.evaluate (Label.granted mapping) = ⟨.ok false, [['a'], ['c']]⟩ := by
    rw [evaluate_eq_visit]
    rfl
  have hagree : ∀ l ∈ (t.evaluate (Label.granted mapping)).lookups,
      Label.granted other l = Label.granted mapping l := by
    rw [hw]
    decide
  obtain ⟨houtcome, hlookups, _⟩ := evaluate_of_agree hagree
  rw [hw] at houtcome hlookups
  exact ⟨hagree, by decide, houtcome, hlookups⟩

end Clearance.Draft
