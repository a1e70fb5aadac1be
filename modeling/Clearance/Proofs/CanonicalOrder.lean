import Clearance.Tree
import Mathlib.Data.List.Perm.Basic
import Mathlib.Tactic.Common

/-! Trees whose groups list sub-groups before leaves, and the one such order that keeps each
kind in place. -/
namespace Clearance
namespace Tree
variable {α : Type}

/-- A group may rely on all of its children at once. -/
@[elab_as_elim] theorem induction {P : Tree α → Prop} (leaf : ∀ a, P (leaf a))
    (group : ∀ op first second rest, (∀ t ∈ first :: second :: rest, P t) →
      P (group op first second rest)) : ∀ t, P t :=
  @Tree.rec α P (fun ts => ∀ t ∈ ts, P t) leaf
    (fun op first second rest hf hs hr => group op first second rest (by
      rintro t (_ | ⟨_, _ | ⟨_, ht⟩⟩)
      · exact hf
      · exact hs
      · exact hr t ht))
    (by simp) (fun _ _ ht hts => List.forall_mem_cons.mpr ⟨ht, hts⟩)

def isGroup : Tree α → Bool
  | leaf _ => false
  | group .. => true

@[simp] theorem isGroup_leaf (a : α) : (leaf a).isGroup = false := rfl

@[simp] theorem isGroup_group (op : Connective) (s t : Tree α) (rest : List (Tree α)) :
    (group op s t rest).isGroup = true := rfl

/-- A group of children that are known to be enough. -/
def ofChildren (op : Connective) : (ts : List (Tree α)) → 2 ≤ ts.length → Tree α
  | first :: second :: rest, _ => group op first second rest

@[simp] theorem ofChildren_cons_cons (op : Connective) (s t : Tree α) (rest : List (Tree α))
    (h : 2 ≤ (s :: t :: rest).length) : ofChildren op (s :: t :: rest) h = group op s t rest := rfl

lemma exists_of_two_le {ts : List (Tree α)} (h : 2 ≤ ts.length) :
    ∃ first second rest, ts = first :: second :: rest := by
  match ts, h with
  | first :: second :: rest, _ => exact ⟨first, second, rest, rfl⟩

@[simp] theorem children_ofChildren (op : Connective) (ts : List (Tree α)) (h : 2 ≤ ts.length) :
    (ofChildren op ts h).children = ts := by
  obtain ⟨first, second, rest, rfl⟩ := exists_of_two_le h
  rfl

@[simp] theorem isGroup_ofChildren (op : Connective) (ts : List (Tree α)) (h : 2 ≤ ts.length) :
    (ofChildren op ts h).isGroup = true := by
  obtain ⟨first, second, rest, rfl⟩ := exists_of_two_le h
  rfl

lemma leaves_group (op : Connective) (s t : Tree α) (rest : List (Tree α)) :
    (group op s t rest).leaves = (s :: t :: rest).flatMap leaves := by
  simp [leaves]

lemma leaves_ofChildren (op : Connective) (ts : List (Tree α)) (h : 2 ≤ ts.length) :
    (ofChildren op ts h).leaves = ts.flatMap leaves := by
  obtain ⟨first, second, rest, rfl⟩ := exists_of_two_le h
  exact leaves_group op first second rest

/-- Sub-groups before leaves, each in the order they had. -/
def groupsFirst (ts : List (Tree α)) : List (Tree α) :=
  ts.filter isGroup ++ ts.filter fun t => !t.isGroup

lemma groupsFirst_perm (ts : List (Tree α)) : (groupsFirst ts).Perm ts :=
  List.filter_append_perm isGroup ts

@[simp] theorem length_groupsFirst (ts : List (Tree α)) : (groupsFirst ts).length = ts.length :=
  (groupsFirst_perm ts).length_eq

lemma two_le_length_groupsFirst (f : Tree α → Tree α) (s t : Tree α) (rest : List (Tree α)) :
    2 ≤ (groupsFirst ((s :: t :: rest).map f)).length := by simp

@[simp] theorem mem_groupsFirst {ts : List (Tree α)} {t : Tree α} :
    t ∈ groupsFirst ts ↔ t ∈ ts := (groupsFirst_perm ts).mem_iff

/-- Among some children no leaf stands before a group. -/
def LeavesLast (ts : List (Tree α)) : Prop := ts.Pairwise fun s t => t.isGroup → s.isGroup

lemma leavesLast_groupsFirst (ts : List (Tree α)) : LeavesLast (groupsFirst ts) := by
  apply List.pairwise_append.mpr
  refine ⟨?_, ?_, ?_⟩
  · apply List.pairwise_of_forall_mem_list
    intro s hs t _ _
    exact (List.mem_filter.mp hs).2
  · apply List.pairwise_of_forall_mem_list
    intro s _ t ht hg
    simp [hg] at ht
  · intro s hs t _ _
    exact (List.mem_filter.mp hs).2

theorem groupsFirst_eq_self_iff (ts : List (Tree α)) : groupsFirst ts = ts ↔ LeavesLast ts := by
  constructor
  · intro h
    exact h ▸ leavesLast_groupsFirst ts
  · intro h
    induction ts with
    | nil => rfl
    | cons t ts ih =>
      obtain ⟨hfirst, hrest⟩ := List.pairwise_cons.mp h
      cases ht : t.isGroup with
      | true => simpa [groupsFirst, ht] using ih hrest
      | false =>
        -- after a leaf only leaves can follow
        have hleaf : ∀ u ∈ ts, u.isGroup = false := by
          intro u hu
          by_contra hg
          simp [ht] at hfirst
          simp [hfirst u hu] at hg
        have hnone : ts.filter isGroup = [] := by
          apply List.filter_eq_nil_iff.mpr
          intro u hu
          simp [hleaf u hu]
        have hall : ts.filter (fun u => !u.isGroup) = ts := by
          apply List.filter_eq_self.mpr
          intro u hu
          simp [hleaf u hu]
        simp [groupsFirst, ht, hnone, hall]

lemma map_groupsFirst {f : Tree α → Tree α} (hf : ∀ t, (f t).isGroup = t.isGroup)
    (ts : List (Tree α)) : (groupsFirst ts).map f = groupsFirst (ts.map f) := by
  simp [groupsFirst, List.filter_map, Function.comp_def, hf]

mutual
/-- Every group lists its sub-groups before its leaves. -/
def canon : Tree α → Tree α
  | leaf a => leaf a
  | group op first second rest =>
    ofChildren op (groupsFirst (first.canon :: second.canon :: canonAll rest)) (by simp)

def canonAll : List (Tree α) → List (Tree α)
  | [] => []
  | t :: ts => t.canon :: canonAll ts
end

@[simp] theorem canonAll_eq (ts : List (Tree α)) : canonAll ts = ts.map canon := by
  induction ts with
  | nil => rfl
  | cons t ts ih => simp [canonAll, ih]

@[simp] theorem canon_leaf (a : α) : (leaf a).canon = leaf a := by simp [canon]

@[simp] theorem canon_group (op : Connective) (s t : Tree α) (rest : List (Tree α)) :
    (group op s t rest).canon = ofChildren op (groupsFirst ((s :: t :: rest).map canon))
      (two_le_length_groupsFirst canon s t rest) := by
  simp [canon]

@[simp] theorem isGroup_canon (t : Tree α) : t.canon.isGroup = t.isGroup := by
  cases t <;> simp

lemma canon_ofChildren (op : Connective) (ts : List (Tree α)) (h : 2 ≤ ts.length) :
    (ofChildren op ts h).canon = ofChildren op (groupsFirst (ts.map canon)) (by simpa using h) := by
  obtain ⟨first, second, rest, rfl⟩ := exists_of_two_le h
  simp

@[simp] theorem canon_canon (t : Tree α) : t.canon.canon = t.canon := by
  induction t using induction with
  | leaf a => simp
  | group op first second rest ih =>
    have hc : ((first :: second :: rest).map canon).map canon =
        (first :: second :: rest).map canon := by
      rw [List.map_map]
      exact List.map_congr_left ih
    have hg : groupsFirst (groupsFirst ((first :: second :: rest).map canon)) =
        groupsFirst ((first :: second :: rest).map canon) :=
      (groupsFirst_eq_self_iff _).mpr (leavesLast_groupsFirst _)
    simp only [canon_group, canon_ofChildren, map_groupsFirst isGroup_canon, hc, hg]

lemma map_canon_eq_self {ts : List (Tree α)} (h : ∀ t ∈ ts, t.canon = t) : ts.map canon = ts := by
  rw [List.map_congr_left h]
  exact List.map_id' ts

/-- The leaves are the same, though not in the same order. -/
theorem leaves_canon_perm (t : Tree α) : t.canon.leaves.Perm t.leaves := by
  induction t using induction with
  | leaf a => simp
  | group op first second rest ih =>
    rw [canon_group, leaves_ofChildren]
    have hsort : ((groupsFirst ((first :: second :: rest).map canon)).flatMap leaves).Perm
        (((first :: second :: rest).map canon).flatMap leaves) :=
      (groupsFirst_perm _).flatMap_right leaves
    have hbelow : ((first :: second :: rest).flatMap fun t => t.canon.leaves).Perm
        ((first :: second :: rest).flatMap leaves) := List.Perm.flatMap_left _ ih
    rw [List.flatMap_map] at hsort
    simpa [leaves] using hsort.trans hbelow

mutual
/-- No group of the tree has a leaf before a group among its children. -/
def GroupsLead : Tree α → Prop
  | leaf _ => True
  | group _ first second rest =>
    LeavesLast (first :: second :: rest) ∧ first.GroupsLead ∧ second.GroupsLead ∧ GroupsLeadAll rest

def GroupsLeadAll : List (Tree α) → Prop
  | [] => True
  | t :: ts => t.GroupsLead ∧ GroupsLeadAll ts
end

@[simp] theorem groupsLeadAll_iff (ts : List (Tree α)) :
    GroupsLeadAll ts ↔ ∀ t ∈ ts, t.GroupsLead := by
  induction ts with
  | nil => simp [GroupsLeadAll]
  | cons t ts ih => simp [GroupsLeadAll, ih]

lemma groupsLead_group_iff (op : Connective) (s t : Tree α) (rest : List (Tree α)) :
    (group op s t rest).GroupsLead ↔
      LeavesLast (s :: t :: rest) ∧ ∀ u ∈ s :: t :: rest, u.GroupsLead := by
  simp [GroupsLead]

/-- The trees that are canonical already. -/
theorem canon_eq_self_iff (t : Tree α) : t.canon = t ↔ t.GroupsLead := by
  induction t using induction with
  | leaf a => simp [GroupsLead]
  | group op first second rest ih =>
    rw [groupsLead_group_iff, canon_group]
    constructor
    · intro h
      have hc : groupsFirst ((first :: second :: rest).map canon) = first :: second :: rest := by
        simpa using congrArg children h
      have hfix : ∀ u ∈ first :: second :: rest, u.canon = u := by
        intro u hu
        rw [← hc, mem_groupsFirst] at hu
        obtain ⟨v, _, rfl⟩ := List.mem_map.mp hu
        exact canon_canon v
      refine ⟨hc ▸ leavesLast_groupsFirst _, ?_⟩
      intro u hu
      exact (ih u hu).mp (hfix u hu)
    · rintro ⟨hs, hl⟩
      have hc : (first :: second :: rest).map canon = first :: second :: rest :=
        map_canon_eq_self fun u hu => (ih u hu).mpr (hl u hu)
      simp only [hc, (groupsFirst_eq_self_iff _).mpr hs, ofChildren_cons_cons]

/-- Whether a tree is canonical can be tested by making it so. -/
instance [DecidableEq α] (t : Tree α) : Decidable t.GroupsLead :=
  decidable_of_iff (t.canon = t) (canon_eq_self_iff t)

end Tree
end Clearance
