import Clearance.Draft.Image
import Clearance.Proofs.Pieces

/-! Which of the values that are no nodes a draft is refused for: the first that is come upon.
Writing goes from left to right and into each group at once. For the image all children of a group
are looked at before a group among them is entered, and of these the last one is entered first. -/
namespace Clearance

/-- The value that is refused, if one is. -/
def refused? {α : Type} : Except Value α → Option Value
  | .error v => some v
  | .ok _ => none

section Refused
variable {α β γ : Type}

lemma refused?_eq_some_iff {x : Except Value α} {v : Value} :
    refused? x = some v ↔ x = .error v := by
  cases x <;> simp [refused?]

/-- What is made of a result is refused for the same value as the result. -/
lemma refused?_map (x : Except Value α) (f : α → β) :
    refused? (x >>= fun a => .ok (f a)) = refused? x := by
  cases x <;> rfl

/-- Of two things, one after the other, the first is refused if it can be. -/
lemma refused?_both (x : Except Value α) (y : Except Value β) (f : α → β → γ) :
    refused? (x >>= fun a => y >>= fun b => .ok (f a b)) = (refused? x).or (refused? y) := by
  cases x with
  | error v => rfl
  | ok a => cases y <;> rfl

lemma refused?_mapM (f : α → Except Value β) (as : List α) :
    refused? (as.mapM f) = as.findSome? fun a => refused? (f a) := by
  induction as with
  | nil => rfl
  | cons a as ih =>
    have hboth := refused?_both (f a) (as.mapM f) List.cons
    rw [List.mapM_cons]
    refine hboth.trans ?_
    rw [ih, List.findSome?_cons]
    cases refused? (f a) <;> rfl

end Refused

namespace Draft

mutual
/-- The values that are no nodes, from left to right, without those that stand behind a null or in a
group behind one. -/
def shown : Draft → List Value
  | .leaf (.label _) => []
  | .leaf (.foreign v) => [v]
  | .group _ first second rest =>
    (unlessNull first (shown first) (unlessNull second (shown second) (shownAll rest))).flatten

def shownAll : List Draft → List (List Value)
  | [] => []
  | t :: ts => unlessNull t (shown t) (shownAll ts)
end

@[simp] theorem shownAll_eq (ts : List Draft) : shownAll ts = (present ts).map shown := by
  induction ts with
  | nil => rfl
  | cons t ts ih => rw [shownAll, ih, map_present_cons]

@[simp] theorem shown_label (l : Label) : shown (.leaf (.label l)) = [] := by rw [shown]

@[simp] theorem shown_foreign (v : Value) : shown (.leaf (.foreign v)) = [v] := by rw [shown]

@[simp] theorem shown_group (op : Connective) (s t : Draft) (rest : List Draft) :
    shown (.group op s t rest) = (present (s :: t :: rest)).flatMap shown := by
  rw [shown, shownAll_eq, ← map_present_cons, ← map_present_cons, List.flatMap_def]

/-- Children are refused in the order in which they are written. -/
lemma refused?_pieces {ts : List Draft} (h : ∀ t ∈ ts, refused? (piece t) = (shown t).head?) :
    refused? (ts.mapM piece) = (ts.flatMap shown).head? := by
  rw [refused?_mapM, List.head?_flatMap]
  induction ts with
  | nil => rfl
  | cons t ts ih =>
    obtain ⟨hfirst, hrest⟩ := List.forall_mem_cons.mp h
    rw [List.findSome?_cons, List.findSome?_cons, hfirst, ih hrest]

theorem refused?_piece (t : Draft) : refused? (piece t) = (shown t).head? := by
  induction t using Tree.induction with
  | leaf a =>
    cases a with
    | label l =>
      rw [piece_label, shown_label]
      rfl
    | foreign v =>
      rw [piece_foreign, shown_foreign]
      rfl
  | group op first second rest ih =>
    rw [piece_group, refused?_map, shown_group]
    exact refused?_pieces fun t ht => ih t (present_subset _ ht)

/-- A draft cannot be written for the first value that no null hides. -/
theorem refused?_render (t : Draft) : refused? (render t) = (shown t).head? := by
  rw [← refused?_piece, piece_eq_map_render]
  cases render t <;> rfl

/-- The value in the place of a node. -/
def foreign? : Draft → Option Value
  | .leaf (.foreign v) => some v
  | _ => none

mutual
/-- The values that are no nodes in the order of a survey: those among the children of a group from
left to right, then those in the groups among them, from right to left. -/
def surveyed : Draft → List Value
  | .leaf (.label _) => []
  | .leaf (.foreign v) => [v]
  | .group _ first second rest =>
    (first :: second :: rest).filterMap foreign? ++
      (surveyedAll rest ++ (if second.isGroup then surveyed second else []) ++
        if first.isGroup then surveyed first else [])

def surveyedAll : List Draft → List Value
  | [] => []
  | t :: ts => surveyedAll ts ++ if t.isGroup then surveyed t else []
end

/-- What a survey of some children comes upon. -/
def surveyedAmong (ts : List Draft) : List Value :=
  ts.filterMap foreign? ++ (ts.filter Tree.isGroup).reverse.flatMap surveyed

lemma surveyedAll_eq (ts : List Draft) :
    surveyedAll ts = (ts.filter Tree.isGroup).reverse.flatMap surveyed := by
  induction ts with
  | nil => rfl
  | cons t ts ih => cases h : t.isGroup <;> simp [surveyedAll, ih, h]

@[simp] theorem surveyed_label (l : Label) : surveyed (.leaf (.label l)) = [] := by rw [surveyed]

@[simp] theorem surveyed_foreign (v : Value) : surveyed (.leaf (.foreign v)) = [v] := by
  rw [surveyed]

@[simp] theorem surveyed_group (op : Connective) (s t : Draft) (rest : List Draft) :
    surveyed (.group op s t rest) = surveyedAmong (s :: t :: rest) := by
  rw [surveyed, surveyedAmong, ← surveyedAll_eq, surveyedAll, surveyedAll]

example : surveyed (.group .and (.group .or (.leaf (.foreign (.int 4))) (.leaf (.label [])) [])
    (.leaf (.foreign (.int 1)))
    [.group .or (.leaf (.foreign (.int 3))) (.leaf (.foreign .null)) [],
      .leaf (.foreign (.int 2))]) = [.int 1, .int 2, .int 3, .null, .int 4] := rfl

lemma slots_eq_mapM (ts : List Draft) : slots ts = ts.mapM slot := by
  induction ts with
  | nil => rfl
  | cons t ts ih => rw [slots, ih, List.mapM_cons]

lemma refused?_slots (ts : List Draft) : refused? (slots ts) = (ts.filterMap foreign?).head? := by
  rw [slots_eq_mapM, refused?_mapM, List.head?_filterMap]
  have hslot : (fun t => refused? (slot t)) = foreign? := by
    funext t
    match t with
    | .leaf (.label l) => rfl
    | .leaf (.foreign v) => rfl
    | .group .. => rfl
  rw [hslot]

/-- The groups among some children wait with what is to be surveyed in them. -/
lemma surveyedAmong_groups (ts : List Draft) :
    ((groups ts).reverse.flatMap fun g => surveyedAmong g.2) =
      (ts.filter Tree.isGroup).reverse.flatMap surveyed := by
  fun_induction groups ts with
  | case1 => rfl
  | case2 a ts ih => exact ih
  | case3 op first second rest ts ih =>
    rw [List.filter_cons_of_pos (Tree.isGroup_group op first second rest), List.reverse_cons,
      List.reverse_cons, List.flatMap_append, List.flatMap_append, ih, List.flatMap_singleton,
      List.flatMap_singleton, surveyed_group]

lemma refused?_survey (todo : List (Connective × List Draft)) (records : List Record) :
    refused? (survey todo records) = (todo.flatMap fun g => surveyedAmong g.2).head? := by
  fun_induction survey todo records with
  | case1 records => rfl
  | case2 records op children todo v h =>
    have hslots := refused?_slots children
    rw [h] at hslots
    simp only [List.flatMap_cons, surveyedAmong, List.head?_append, ← hslots]
    rfl
  | case3 records op children todo found h ih =>
    have hslots := refused?_slots children
    rw [h] at hslots
    have hnone : children.filterMap foreign? = [] := List.head?_eq_none_iff.mp hslots.symm
    rw [ih, List.flatMap_append, surveyedAmong_groups, List.flatMap_cons, surveyedAmong, hnone,
      List.nil_append]

/-- A draft has no image for the first value that a survey comes upon. -/
theorem refused?_image (t : Draft) : refused? (image t) = (surveyed t).head? := by
  match t with
  | .leaf (.label l) =>
    rw [image, surveyed_label]
    rfl
  | .leaf (.foreign v) =>
    rw [image, surveyed_foreign]
    rfl
  | .group op first second rest =>
    have h := refused?_survey [(op, first :: second :: rest)] []
    rw [List.flatMap_singleton] at h
    rw [image, surveyed_group, ← h]
    exact refused?_map _ _

/-- A survey comes upon every value that is no node. -/
theorem mem_surveyed_iff {t : Draft} {v : Value} : v ∈ surveyed t ↔ .foreign v ∈ t.leaves := by
  induction t using Tree.induction with
  | leaf a => cases a <;> simp [Tree.leaves]
  | group op first second rest ih =>
    rw [surveyed_group, surveyedAmong, List.mem_append, List.mem_filterMap, List.mem_flatMap,
      Tree.leaves_group, List.mem_flatMap]
    constructor
    · rintro (⟨u, hu, hv⟩ | ⟨u, hu, hv⟩)
      · refine ⟨u, hu, ?_⟩
        unfold foreign? at hv
        split at hv
        · obtain rfl := Option.some.inj hv
          exact List.mem_singleton_self _
        · contradiction
      · have hmem := (List.mem_filter.mp (List.mem_reverse.mp hu)).1
        exact ⟨u, hmem, (ih u hmem).mp hv⟩
    · rintro ⟨u, hu, hv⟩
      cases u with
      | leaf a =>
        obtain rfl := List.mem_singleton.mp hv
        exact .inl ⟨_, hu, rfl⟩
      | group op s t more =>
        have hgroup := List.mem_filter.mpr ⟨hu, Tree.isGroup_group op s t more⟩
        exact .inr ⟨_, List.mem_reverse.mpr hgroup, (ih _ hu).mpr hv⟩

end Draft
end Clearance
