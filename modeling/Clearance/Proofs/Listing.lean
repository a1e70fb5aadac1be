import Clearance.Credentials
import Mathlib.Data.List.TakeWhile

/-! How credentials are read: what their items are, which of them are blank, and the labels. -/
namespace Clearance

namespace Text

lemma splitOn_of_not_mem {sep : Char} {s : Text} (h : sep ∉ s) : splitOn sep s = [s] := by
  induction s with
  | nil => rfl
  | cons c rest ih =>
    have hc : c ≠ sep := (List.ne_of_not_mem_cons h).symm
    rw [splitOn, if_neg hc, ih (List.not_mem_of_not_mem_cons h)]

/-- Splitting a text at one of its separators first changes nothing. -/
lemma splitOn_append (sep : Char) (s rest : Text) :
    splitOn sep (s ++ sep :: rest) = splitOn sep s ++ splitOn sep rest := by
  induction s with
  | nil => simp [splitOn]
  | cons c s ih =>
    by_cases hc : c = sep
    · simp [splitOn, hc, ih]
    · obtain ⟨piece, pieces, hs⟩ := List.exists_cons_of_ne_nil (splitOn_ne_nil sep s)
      simp [splitOn, hc, ih, hs]

/-- Joining loses nothing as long as no piece has a separator of its own. -/
theorem splitOn_join {sep : Char} {pieces : List Text} (hn : pieces ≠ [])
    (h : ∀ s ∈ pieces, sep ∉ s) : splitOn sep (join [sep] pieces) = pieces := by
  induction pieces with
  | nil => contradiction
  | cons s pieces ih =>
    obtain ⟨hs, hrest⟩ := List.forall_mem_cons.mp h
    cases pieces with
    | nil => exact splitOn_of_not_mem hs
    | cons next pieces =>
      rw [join_cons_cons, List.append_assoc]
      show splitOn sep (s ++ sep :: join [sep] (next :: pieces)) = _
      rw [splitOn_append, splitOn_of_not_mem hs, ih (by simp) hrest]
      rfl

/-- Lines that all end alike come back from their text, and nothing after the last. -/
lemma splitOn_flatMap {sep : Char} {lines : List Text} (h : ∀ line ∈ lines, sep ∉ line) :
    splitOn sep (lines.flatMap (· ++ [sep])) = lines ++ [[]] := by
  induction lines with
  | nil => rfl
  | cons line lines ih =>
    obtain ⟨hfirst, hrest⟩ := List.forall_mem_cons.mp h
    rw [List.flatMap_cons, List.append_assoc, List.singleton_append, splitOn_append,
      splitOn_of_not_mem hfirst, ih hrest]
    rfl

/-- The pieces of a text have none of the separators that part them. -/
lemma not_mem_of_mem_splitOn {sep : Char} {s piece : Text} (h : piece ∈ splitOn sep s) :
    sep ∉ piece := by
  induction s generalizing piece with
  | nil =>
    obtain rfl := List.mem_singleton.mp h
    exact List.not_mem_nil
  | cons c s ih =>
    by_cases hc : c = sep
    · rw [splitOn, if_pos hc] at h
      obtain rfl | h := List.mem_cons.mp h
      · exact List.not_mem_nil
      · exact ih h
    · obtain ⟨first, pieces, hs⟩ := List.exists_cons_of_ne_nil (splitOn_ne_nil sep s)
      rw [hs] at ih
      simp only [splitOn, if_neg hc, hs] at h
      obtain rfl | h := List.mem_cons.mp h
      · exact List.not_mem_cons_of_ne_of_not_mem (Ne.symm hc) (ih List.mem_cons_self)
      · exact ih (List.mem_cons_of_mem _ h)

lemma dropEndWhile_eq_nil_iff {p : Char → Bool} {s : Text} :
    dropEndWhile p s = [] ↔ ∀ c ∈ s, p c = true := by
  simp [dropEndWhile, List.dropWhile_eq_nil_iff]

/-- Nothing is left of a text by trimming if all of it is blank. -/
lemma trim_eq_nil_iff {s : Text} : s.trim = [] ↔ ∀ c ∈ s, Alphabet.isBlank c = true := by
  rw [trim, dropEndWhile_eq_nil_iff]
  constructor
  · intro h
    rw [← List.takeWhile_append_dropWhile (p := Alphabet.isBlank) (l := s)]
    exact List.forall_mem_append.mpr ⟨List.all_eq_true.mp List.all_takeWhile, h⟩
  · exact fun h c hc => h c (List.dropWhile_subset _ hc)

end Text

/-- A label between quotes, whatever is in it. -/
def Label.quote (l : Label) : Text := '"' :: l ++ ['"']

lemma Label.trim_quote (l : Label) : Text.trim l.quote = l.quote := by
  have hq : Alphabet.isBlank '"' = false := by decide
  simp [Text.trim, Text.dropEndWhile, Label.quote, hq]

namespace LabelSet

lemma nodup_eraseDups : (ls : List Label) → ls.eraseDups.Nodup
  | [] => by simp
  | l :: ls => by
    rw [List.eraseDups_cons, List.nodup_cons]
    exact ⟨by simp, nodup_eraseDups _⟩
termination_by ls => ls.length
decreasing_by exact Nat.lt_succ_of_le (List.length_filter_le ..)

end LabelSet

namespace Credentials

lemma items_append (a b : Text) : items (a ++ ',' :: b) = items a ++ items b :=
  Text.splitOn_append ',' a b

/-- An item without any character that is not trimmed. -/
def Blank (item : Text) : Prop := ∀ c ∈ item, Alphabet.isBlank c = true

instance (item : Text) : Decidable (Blank item) :=
  decidable_of_iff (item.all Alphabet.isBlank = true) List.all_eq_true

lemma blank?_eq_none_iff {credentials : Text} :
    blank? credentials = none ↔ ∀ item ∈ items credentials, ¬ Blank item := by
  have hitems : (∀ item ∈ (items credentials).zipIdx.map Prod.fst, ¬ Blank item) ↔
      ∀ item ∈ items credentials, ¬ Blank item := by rw [List.zipIdx_map_fst]
  rw [← hitems, List.forall_mem_map, blank?, List.find?_eq_none]
  simp only [decide_eq_true_eq, Text.trim_eq_nil_iff, Blank]

/-- The labels that some credentials are read as. -/
def labels (credentials : Text) : LabelSet := ((items credentials).map label).eraseDups

lemma read_of_blank {credentials : Text} (h : ∃ item ∈ items credentials, Blank item) :
    ∃ index item, read true credentials = .error (.emptyLabel index item) := by
  cases hb : blank? credentials with
  | none =>
    obtain ⟨item, hi, hblank⟩ := h
    exact absurd hblank (blank?_eq_none_iff.mp hb item hi)
  | some p => exact ⟨p.2, p.1, by simp [read, hb]⟩

lemma read_of_not_blank {credentials : Text} (h : ∀ item ∈ items credentials, ¬ Blank item)
    (strict : Bool) : read strict credentials = .ok (labels credentials) := by
  rw [read, blank?_eq_none_iff.mpr h, ite_self]
  rfl

/-- Only for a blank item are credentials refused. -/
lemma read_cases (strict : Bool) (credentials : Text) :
    read strict credentials = .ok (labels credentials) ∨
      ∃ index item, read strict credentials = .error (.emptyLabel index item) := by
  unfold read
  split
  · exact .inr ⟨_, _, rfl⟩
  · exact .inl rfl

/-- The labels of a caller, each between quotes, with commas between them. -/
def listing (held : List Label) : Text := Text.join [','] (held.map Label.quote)

@[simp] theorem label_quote (l : Label) : label l.quote = l := by
  rw [label, Label.trim_quote]
  simp [unquote, Label.quote]

lemma items_listing {held : List Label} (hn : held ≠ []) (hc : ∀ l ∈ held, ',' ∉ l) :
    items (listing held) = held.map Label.quote := by
  apply Text.splitOn_join
  · simpa using hn
  · intro s hs
    obtain ⟨l, hl, rfl⟩ := List.mem_map.mp hs
    simpa [Label.quote] using hc l hl

/-- An item between quotes is never blank. -/
lemma not_blank_of_mem_listing {held : List Label} (hn : held ≠ []) (hc : ∀ l ∈ held, ',' ∉ l) :
    ∀ item ∈ items (listing held), ¬ Blank item := by
  rw [items_listing hn hc, List.forall_mem_map]
  intro l _ hblank
  have hq := hblank '"' (by simp [Label.quote])
  contradiction

/-- Strict or not, the listed labels are read back. -/
theorem read_listing (strict : Bool) {held : List Label} (hn : held ≠ [])
    (hc : ∀ l ∈ held, ',' ∉ l) : read strict (listing held) = .ok held.eraseDups := by
  have hlabels : (held.map Label.quote).map label = held := by
    rw [List.map_map]
    exact List.map_id'' label_quote held
  rw [read_of_not_blank (not_blank_of_mem_listing hn hc), labels, items_listing hn hc, hlabels]

end Credentials

end Clearance
