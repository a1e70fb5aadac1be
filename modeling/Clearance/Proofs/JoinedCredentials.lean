import Clearance.Proofs.Listing
import Mathlib.Data.Finset.Lattice.Lemmas

/-! Credentials joined by a comma: the labels of both, or the blank item that comes first in
them. -/
namespace Clearance.Credentials

/-- The item is blank, and none of those before it is. -/
structure FirstBlank (items : List Text) (index : Nat) (item : Text) : Prop where
  found : items[index]? = some item
  blank : Blank item
  first : ∀ i < index, ∀ other, items[i]? = some other → ¬ Blank other

section FirstBlank
variable {xs ys : List Text} {index : Nat} {item : Text}

lemma FirstBlank.mem (h : FirstBlank xs index item) : item ∈ xs := List.mem_of_getElem? h.found

lemma FirstBlank.append (h : FirstBlank xs index item) (ys : List Text) :
    FirstBlank (xs ++ ys) index item := by
  obtain ⟨hlt, _⟩ := List.getElem?_eq_some_iff.mp h.found
  refine ⟨?_, h.blank, ?_⟩
  · rw [List.getElem?_append_left hlt]
    exact h.found
  · intro i hi other ho
    rw [List.getElem?_append_left (hi.trans hlt)] at ho
    exact h.first i hi other ho

/-- Behind items that are not blank the first blank one is found as many places later. -/
lemma FirstBlank.behind (h : FirstBlank ys index item) (hx : ∀ x ∈ xs, ¬ Blank x) :
    FirstBlank (xs ++ ys) (xs.length + index) item := by
  refine ⟨?_, h.blank, ?_⟩
  · rw [List.getElem?_append_right (Nat.le_add_right _ _), Nat.add_sub_cancel_left]
    exact h.found
  · intro i hi other ho
    by_cases hlt : i < xs.length
    · rw [List.getElem?_append_left hlt] at ho
      exact hx other (List.mem_of_getElem? ho)
    · have hle : xs.length ≤ i := Nat.le_of_not_lt hlt
      rw [List.getElem?_append_right hle] at ho
      exact h.first (i - xs.length) (by omega) other ho

/-- A search from the front finds the first blank item. -/
lemma find?_eq_some_iff :
    xs.zipIdx.find? (fun p => p.1.trim = []) = some (item, index) ↔ FirstBlank xs index item := by
  simp only [List.find?_eq_some_iff_getElem, List.getElem_zipIdx, List.length_zipIdx,
    decide_eq_true_eq, Text.trim_eq_nil_iff, Prod.mk.injEq, Nat.zero_add, Bool.not_eq_true',
    decide_eq_false_iff_not]
  constructor
  · rintro ⟨hblank, i, hi, ⟨rfl, rfl⟩, hbefore⟩
    refine ⟨List.getElem?_eq_getElem hi, hblank, ?_⟩
    intro j hj other ho
    obtain ⟨_, rfl⟩ := List.getElem?_eq_some_iff.mp ho
    exact hbefore j hj
  · rintro ⟨hfound, hblank, hfirst⟩
    obtain ⟨hi, rfl⟩ := List.getElem?_eq_some_iff.mp hfound
    exact ⟨hblank, index, hi, ⟨rfl, rfl⟩,
      fun j hj => hfirst j hj _ (List.getElem?_eq_getElem (hj.trans hi))⟩

end FirstBlank

section Read
variable {a b : Text} {index : Nat} {item : Text} {r : Refusal} {A B : LabelSet}

lemma blank?_eq_some_iff : blank? a = some (item, index) ↔ FirstBlank (items a) index item :=
  find?_eq_some_iff

/-- Strict reading is refused for the first blank item, and for nothing else. -/
theorem read_strict_eq_error_iff : read true a = .error r ↔
    ∃ index item, r = .emptyLabel index item ∧ FirstBlank (items a) index item := by
  constructor
  · intro h
    cases hb : blank? a with
    | none => simp [read, hb] at h
    | some p =>
      obtain ⟨item, index⟩ := p
      simp only [read, if_true, hb, Except.error.injEq] at h
      exact ⟨index, item, h.symm, blank?_eq_some_iff.mp hb⟩
  · rintro ⟨index, item, rfl, h⟩
    simp [read, blank?_eq_some_iff.mpr h]

theorem read_strict_eq_ok_iff : read true a = .ok A ↔
    A = labels a ∧ ∀ item ∈ items a, ¬ Blank item := by
  constructor
  · intro h
    have hplain : ∀ item ∈ items a, ¬ Blank item := by
      intro item hi hblank
      obtain ⟨_, _, hr⟩ := read_of_blank ⟨item, hi, hblank⟩
      rw [h] at hr
      contradiction
    rw [read_of_not_blank hplain] at h
    exact ⟨(Except.ok.inj h).symm, hplain⟩
  · rintro ⟨rfl, hplain⟩
    exact read_of_not_blank hplain true

lemma exists_read_strict_error_iff :
    (∃ r, read true a = .error r) ↔ ∃ item ∈ items a, Blank item := by
  constructor
  · rintro ⟨r, h⟩
    obtain ⟨_, item, _, hfirst⟩ := read_strict_eq_error_iff.mp h
    exact ⟨item, hfirst.mem, hfirst.blank⟩
  · intro h
    obtain ⟨_, _, hr⟩ := read_of_blank h
    exact ⟨_, hr⟩

lemma toFinset_labels (a : Text) : (labels a).toFinset = ((items a).map label).toFinset := by
  ext l
  simp [labels]

/-- No label is lost at the comma, and none is added. -/
lemma toFinset_labels_append (a b : Text) :
    (labels (a ++ ',' :: b)).toFinset = (labels a).toFinset ∪ (labels b).toFinset := by
  rw [toFinset_labels, toFinset_labels, toFinset_labels, items_append, List.map_append,
    List.toFinset_append]

/-- The order of the items is of no account, nor how often one is listed. -/
lemma toFinset_labels_congr (h : ∀ item, item ∈ items a ↔ item ∈ items b) :
    (labels a).toFinset = (labels b).toFinset := by
  ext l
  simp [toFinset_labels, h]

lemma read_append_of_error (h : read true a = .error r) (b : Text) :
    read true (a ++ ',' :: b) = .error r := by
  obtain ⟨index, item, rfl, hfirst⟩ := read_strict_eq_error_iff.mp h
  refine read_strict_eq_error_iff.mpr ⟨index, item, rfl, ?_⟩
  rw [items_append]
  exact hfirst.append (items b)

/-- The place of a blank item is counted from the front of all credentials. -/
lemma read_append_behind (ha : read true a = .ok A)
    (hb : read true b = .error (.emptyLabel index item)) :
    read true (a ++ ',' :: b) = .error (.emptyLabel ((items a).length + index) item) := by
  obtain ⟨_, hplain⟩ := read_strict_eq_ok_iff.mp ha
  obtain ⟨_, _, hsame, hfirst⟩ := read_strict_eq_error_iff.mp hb
  cases hsame
  refine read_strict_eq_error_iff.mpr ⟨_, _, rfl, ?_⟩
  rw [items_append]
  exact hfirst.behind hplain

lemma read_append_of_ok (ha : read true a = .ok A) (hb : read true b = .ok B) :
    read true (a ++ ',' :: b) = .ok (labels (a ++ ',' :: b)) := by
  obtain ⟨_, hplainA⟩ := read_strict_eq_ok_iff.mp ha
  obtain ⟨_, hplainB⟩ := read_strict_eq_ok_iff.mp hb
  refine read_strict_eq_ok_iff.mpr ⟨rfl, ?_⟩
  rw [items_append]
  exact List.forall_mem_append.mpr ⟨hplainA, hplainB⟩

/-- Credentials joined by a comma hold the labels of both, and without strictness neither the order
nor the repetition of items tells in the labels. When strict, the first blank item of the first is
refused, and if there is none that of the second, behind all items of the first; with no blank item
at all reading is as without strictness. -/
theorem read_append (a b : Text) :
    (∃ A B C, read false a = .ok A ∧ read false b = .ok B ∧ read false (a ++ ',' :: b) = .ok C ∧
      C.toFinset = A.toFinset ∪ B.toFinset ∧
      ((∀ item, item ∈ items a ↔ item ∈ items b) → A.toFinset = B.toFinset)) ∧
    (∀ r, read true a = .error r → read true (a ++ ',' :: b) = .error r) ∧
    (∀ A index item, read true a = .ok A → read true b = .error (.emptyLabel index item) →
      read true (a ++ ',' :: b) = .error (.emptyLabel ((items a).length + index) item)) ∧
    (∀ A B, read true a = .ok A → read true b = .ok B →
      ∃ C, read true (a ++ ',' :: b) = .ok C ∧ C.toFinset = A.toFinset ∪ B.toFinset) ∧
    ((∃ r, read true a = .error r) ↔ ∃ item ∈ items a, Blank item) ∧
    (∀ r, read true a = .error r →
      ∃ index item, r = .emptyLabel index item ∧ FirstBlank (items a) index item) ∧
    (∀ A, read true a = .ok A → read false a = .ok A) := by
  refine ⟨?_, fun r h => read_append_of_error h b, fun A index item => read_append_behind, ?_,
    exists_read_strict_error_iff, fun r => read_strict_eq_error_iff.mp, ?_⟩
  · exact ⟨labels a, labels b, labels (a ++ ',' :: b), rfl, rfl, rfl,
      toFinset_labels_append a b, toFinset_labels_congr⟩
  · intro A B ha hb
    refine ⟨_, read_append_of_ok ha hb, ?_⟩
    obtain ⟨rfl, _⟩ := read_strict_eq_ok_iff.mp ha
    obtain ⟨rfl, _⟩ := read_strict_eq_ok_iff.mp hb
    exact toFinset_labels_append a b
  · intro A h
    obtain ⟨rfl, _⟩ := read_strict_eq_ok_iff.mp h
    rfl

end Read

/-- A quoted comma parts two items, the unit separator is blank, and the last two credentials list
the same items in another order, one of them twice. -/
theorem read_append_blank :
    let a := "\"x, y\"".toList
    let b := "z,\u001f".toList
    let c := " y\",\"x,\"x".toList
    (read true a = .ok [['x'], ['y']] ∧ read true b = .error (.emptyLabel 1 ['\u001f']) ∧
      read true (a ++ ',' :: b) = .error (.emptyLabel 3 ['\u001f']) ∧
      read true (b ++ ',' :: a) = .error (.emptyLabel 1 ['\u001f'])) ∧
    (∃ C, read true (a ++ ',' :: c) = .ok C ∧ C.toFinset = {['x'], ['y']}) ∧
    (∀ item, item ∈ items a ↔ item ∈ items c) ∧
    ∃ A C, read false a = .ok A ∧ read false c = .ok C ∧ A.toFinset = C.toFinset := by
  intro a b c
  have ha : read true a = .ok [['x'], ['y']] := by decide
  have hb : read true b = .error (.emptyLabel 1 ['\u001f']) := by decide
  have hc : read true c = .ok [['y'], ['x']] := by decide
  have hitems : ∀ item, item ∈ items a ↔ item ∈ items c := by
    have hsame : (items a).toFinset = (items c).toFinset := by decide
    simpa [Finset.ext_iff] using hsame
  obtain ⟨_, _, hbehind, _⟩ := read_append a b
  obtain ⟨_, hfront, _⟩ := read_append b a
  obtain ⟨⟨A, C, _, hA, hC, _, _, hset⟩, _, _, hboth, _⟩ := read_append a c
  obtain ⟨D, hD, hunion⟩ := hboth _ _ ha hc
  refine ⟨⟨ha, hb, hbehind _ _ _ ha hb, hfront _ hb⟩, ⟨D, hD, ?_⟩, hitems, A, C, hA, hC,
    hset hitems⟩
  rw [hunion]
  decide

end Clearance.Credentials
