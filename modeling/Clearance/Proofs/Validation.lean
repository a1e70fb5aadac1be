import Clearance.Proofs.Loading

/-! The settings that a document gives, told field by field, and what is reported of a document that
gives none. -/
namespace Clearance.Config

/-- The values that are read as text: strings of characters, and bytes that encode one. -/
inductive TextOf : Item → String → Prop
  | str (s : String) : TextOf (.str s) s
  | bytes {content : List UInt8} {s : String} (encoded : decoded? content = some s) :
      TextOf (.bytes content) s

/-- The values that are read as a switch: booleans, zero and one, and texts that are some words, in
letters of either case. -/
inductive SwitchOf : Item → Bool → Prop
  | bool (b : Bool) : SwitchOf (.bool b) b
  | word {v : Item} {s : String} {b : Bool} (text : TextOf v s)
      (known : String.ofList (s.toList.map Char.toLower) ∈ if b then trueWords else falseWords) :
      SwitchOf v b
  | int (b : Bool) : SwitchOf (.int b.toInt) b
  | float {x : Binary} {b : Bool} (integral : x.toInt? = some b.toInt) : SwitchOf (.float x) b

/-- A reader of values gives what a value stands for, or a single issue if it stands for nothing. -/
structure Judges {α : Type} (read : List Step → Item → Validated α) (Of : Item → α → Prop) :
    Prop where
  ok_iff : ∀ place v a, read place v = .ok a ↔ Of v a
  issue : ∀ place v, (∀ a, ¬ Of v a) → ∃ problem, read place v = .error [⟨place, problem⟩]

lemma Judges.of_cases {α : Type} {read : List Step → Item → Validated α} {Of : Item → α → Prop}
    (hunique : ∀ v a b, Of v a → Of v b → a = b)
    (hcases : ∀ place v, (∃ a, read place v = .ok a ∧ Of v a) ∨
      (∃ problem, read place v = .error [⟨place, problem⟩]) ∧ ∀ a, ¬ Of v a) :
    Judges read Of := by
  refine ⟨?_, ?_⟩
  · intro place v a
    obtain ⟨b, hb, hv⟩ | ⟨⟨problem, hp⟩, hv⟩ := hcases place v
    · rw [hb]
      constructor
      · intro h
        exact Except.ok.inj h ▸ hv
      · intro ha
        rw [hunique v b a hv ha]
    · rw [hp]
      exact ⟨nofun, fun ha => absurd ha (hv a)⟩
  · intro place v hnone
    obtain ⟨a, _, ha⟩ | ⟨h, _⟩ := hcases place v
    · exact absurd ha (hnone a)
    · exact h

lemma TextOf.unique {v : Item} {s t : String} (hs : TextOf v s) (ht : TextOf v t) : s = t := by
  cases hs with
  | str => cases ht; rfl
  | bytes hs =>
    cases ht with
    | bytes ht => exact Option.some.inj (hs.symm.trans ht)

lemma judges_string : Judges string TextOf := by
  apply Judges.of_cases
  · intro v s t hs ht
    exact hs.unique ht
  · intro place v
    cases v with
    | str s => exact .inl ⟨s, rfl, .str s⟩
    | bytes content =>
      simp only [string]
      cases hd : decoded? content with
      | some s => exact .inl ⟨s, rfl, .bytes hd⟩
      | none =>
        refine .inr ⟨⟨_, rfl⟩, ?_⟩
        intro s hs
        cases hs with
        | bytes encoded => cases hd.symm.trans encoded
    | _ => exact .inr ⟨⟨_, rfl⟩, nofun⟩

/-- No value is read as a word besides being a switch of its own, and no word as two switches. -/
lemma SwitchOf.unique {v : Item} {a b : Bool} (ha : SwitchOf v a) (hb : SwitchOf v b) : a = b := by
  have hdisjoint : ∀ w ∈ trueWords, w ∉ falseWords := by decide
  have htoInt : ∀ a b : Bool, a.toInt = b.toInt → a = b := by decide
  cases ha with
  | bool =>
    cases hb with
    | bool => rfl
    | word text => cases text
  | word text ha =>
    cases hb with
    | bool => cases text
    | int => cases text
    | float => cases text
    | word text' hb =>
      obtain rfl := text.unique text'
      cases a <;> cases b
      · rfl
      · exact absurd ha (hdisjoint _ hb)
      · exact absurd hb (hdisjoint _ ha)
      · rfl
  | int =>
    generalize hn : a.toInt = n at hb
    cases hb with
    | int => exact htoInt _ _ hn
    | word text => cases text
  | float ha =>
    cases hb with
    | float hb => exact htoInt _ _ (Option.some.inj (ha.symm.trans hb))
    | word text => cases text

/-- A text is a switch by its word, if by anything. -/
lemma wordBoolean_cases {v : Item} {s : String} (text : TextOf v s) (place : List Step) :
    (∃ b, wordBoolean place s = .ok b ∧ SwitchOf v b) ∨
      (∃ problem, wordBoolean place s = .error [⟨place, problem⟩]) ∧ ∀ b, ¬ SwitchOf v b := by
  simp only [wordBoolean]
  split_ifs with ht hf
  · exact .inl ⟨true, rfl, .word text ht⟩
  · exact .inl ⟨false, rfl, .word text hf⟩
  · refine .inr ⟨⟨_, rfl⟩, ?_⟩
    intro b hb
    cases hb with
    | word text' h =>
      obtain rfl := text.unique text'
      cases b with
      | false => exact hf h
      | true => exact ht h
    | _ => cases text

lemma judges_boolean : Judges boolean SwitchOf := by
  refine Judges.of_cases ?_ ?_
  · intro v a b ha hb
    exact ha.unique hb
  intro place v
  cases v with
  | bool b => exact .inl ⟨b, rfl, .bool b⟩
  | str s => exact wordBoolean_cases (.str s) place
  | bytes content =>
    simp only [boolean]
    cases hd : decoded? content with
    | some s => exact wordBoolean_cases (.bytes hd) place
    | none =>
      refine .inr ⟨⟨_, rfl⟩, ?_⟩
      intro b hb
      cases hb with
      | word text =>
        cases text with
        | bytes encoded => cases hd.symm.trans encoded
  | int n =>
    by_cases h0 : n = 0
    · exact .inl ⟨false, if_pos h0, h0 ▸ .int false⟩
    by_cases h1 : n = 1
    · exact .inl ⟨true, (if_neg h0).trans (if_pos h1), h1 ▸ .int true⟩
    refine .inr ⟨⟨_, (if_neg h0).trans (if_neg h1)⟩, ?_⟩
    intro b hb
    cases hb with
    | word text => cases text
    | int =>
      cases b with
      | false => exact h0 rfl
      | true => exact h1 rfl
  | float x =>
    simp only [boolean]
    split
    · rename_i h
      exact .inl ⟨false, rfl, .float h⟩
    · rename_i h
      exact .inl ⟨true, rfl, .float h⟩
    · rename_i n h0 h1 hn
      refine .inr ⟨⟨_, rfl⟩, ?_⟩
      intro b hb
      cases hb with
      | word text => cases text
      | float h =>
        cases b with
        | false => exact h0 (Option.some.inj (hn.symm.trans h))
        | true => exact h1 (Option.some.inj (hn.symm.trans h))
    · rename_i hn
      refine .inr ⟨⟨_, rfl⟩, ?_⟩
      intro b hb
      cases hb with
      | word text => cases text
      | float h =>
        rw [hn] at h
        contradiction
  | _ =>
    refine .inr ⟨⟨_, rfl⟩, ?_⟩
    intro b hb
    cases hb with
    | word text => cases text

section Both
variable {α β : Type} {x : Validated α} {y : Validated β}

lemma both_eq_ok_iff {a : α} {b : β} : both x y = .ok (a, b) ↔ x = .ok a ∧ y = .ok b := by
  cases x <;> cases y <;> simp [both]

end Both

/-- The entries of a section. It need not be there, and then there are none. -/
def Section (doc : Document) (part : String) (entries : Entries) : Prop :=
  doc.section? part = none ∧ entries = [] ∨ doc.section? part = some (some entries)

/-- Something stands where a section should, but it is no mapping. -/
def Misplaced (doc : Document) (part : String) : Prop := doc.section? part = some none

/-- What a key of a section is set to, by default if it is not there. -/
def Field {α : Type} (entries : Entries) (key : String) (default : α) (Of : Item → α → Prop)
    (a : α) : Prop :=
  Value.find? entries key = none ∧ a = default ∨ ∃ v, Value.find? entries key = some v ∧ Of v a

section Entry
variable {α : Type} {read : List Step → Item → Validated α} {Of : Item → α → Prop}
  {part key : String} {default a : α} {entries : Entries}

lemma entry_eq_ok_iff (h : Judges read Of) :
    entry part key read default entries = .ok a ↔ Field entries key default Of a := by
  unfold entry Field
  cases Value.find? entries key with
  | none => simp [eq_comm]
  | some v => simp [h.ok_iff]

end Entry

/-- What is read of the entries of a section, or said of what stands in its place. -/
def ofSection {β : Type} (doc : Document) (part : String) (read : Entries → β) (misplaced : β) :
    β :=
  match doc.section? part with
  | none => read []
  | some (some entries) => read entries
  | some none => misplaced

section Sections
variable {β : Type} {doc : Document} {entries entries' : Entries} {part : String}
  {read : Entries → β} {misplaced : β}

lemma section_cases (doc : Document) (part : String) :
    (∃ entries, Section doc part entries) ∨ Misplaced doc part := by
  unfold Section Misplaced
  cases doc.section? part with
  | none => exact .inl ⟨[], .inl ⟨rfl, rfl⟩⟩
  | some found =>
    cases found with
    | none => exact .inr rfl
    | some entries => exact .inl ⟨entries, .inr rfl⟩

lemma section_iff_entriesAt : Section doc part entries ↔
    ¬ Misplaced doc part ∧ doc.entriesAt part = entries := by
  unfold Section Misplaced Document.entriesAt
  rcases doc.section? part with _ | _ | found <;> simp [eq_comm]

lemma Section.unique (h : Section doc part entries) (h' : Section doc part entries') :
    entries = entries' :=
  (section_iff_entriesAt.mp h).2.symm.trans (section_iff_entriesAt.mp h').2

lemma Section.exists_iff {P : Entries → Prop} (h : Section doc part entries) :
    (∃ entries, Section doc part entries ∧ P entries) ↔ P entries := by
  constructor
  · rintro ⟨entries', h', hP⟩
    exact h.unique h' ▸ hP
  · intro hP
    exact ⟨entries, h, hP⟩

lemma Section.not_misplaced (h : Section doc part entries) : ¬ Misplaced doc part :=
  (section_iff_entriesAt.mp h).1

lemma Section.ofSection_eq (h : Section doc part entries) :
    ofSection doc part read misplaced = read entries := by
  obtain ⟨hn, rfl⟩ | hs := h
  · rw [ofSection, hn]
  · rw [ofSection, hs]

lemma Misplaced.ofSection_eq (h : Misplaced doc part) :
    ofSection doc part read misplaced = misplaced := by
  rw [ofSection, show doc.section? part = some none from h]

lemma Misplaced.not_exists {P : Entries → Prop} (h : Misplaced doc part) :
    ¬ ∃ entries, Section doc part entries ∧ P entries := by
  rintro ⟨entries, hs, _⟩
  exact hs.not_misplaced h

lemma ofSection_eq_ok_iff {α : Type} {read : Entries → Validated α} {place : List Step}
    {problem : Problem} {a : α} : ofSection doc part read (issue place problem) = .ok a ↔
      ∃ entries, Section doc part entries ∧ read entries = .ok a := by
  obtain ⟨entries, hs⟩ | hm := section_cases doc part
  · rw [hs.ofSection_eq, hs.exists_iff]
  · rw [hm.ofSection_eq]
    exact ⟨nofun, fun h => absurd h hm.not_exists⟩

lemma loggingSection_eq (doc : Document) : loggingSection doc = ofSection doc "logging"
    (fun entries => both (entry "logging" "level" string "INFO" entries)
      (entry "logging" "json_output" boolean false entries))
    (issue [.key "logging"] (.notSection "LoggingConfig")) := by
  unfold loggingSection ofSection
  rcases doc.section? "logging" with _ | _ | entries <;> rfl

lemma labelsSection_eq (doc : Document) : labelsSection doc = ofSection doc "labels"
    (entry "labels" "strict" boolean false)
    (issue [.key "labels"] (.notSection "LabelsConfig")) := by
  unfold labelsSection ofSection
  rcases doc.section? "labels" with _ | _ | entries <;> rfl

theorem loggingSection_eq_ok_iff {level : String} {jsonLines : Bool} :
    loggingSection doc = .ok (level, jsonLines) ↔ ∃ entries, Section doc "logging" entries ∧
      Field entries "level" "INFO" TextOf level ∧
      Field entries "json_output" false SwitchOf jsonLines := by
  simp only [loggingSection_eq, ofSection_eq_ok_iff, both_eq_ok_iff,
    entry_eq_ok_iff judges_string, entry_eq_ok_iff judges_boolean]

theorem labelsSection_eq_ok_iff {strict : Bool} :
    labelsSection doc = .ok strict ↔ ∃ entries, Section doc "labels" entries ∧
      Field entries "strict" false SwitchOf strict := by
  simp only [labelsSection_eq, ofSection_eq_ok_iff, entry_eq_ok_iff judges_boolean]

end Sections

/-- The places outside the policies at which a document can be wrong. -/
inductive Spot
  | logging | level | jsonOutput | labels | strict

namespace Spot

def place : Spot → List Step
  | logging => [.key "logging"]
  | level => [.key "logging", .key "level"]
  | jsonOutput => [.key "logging", .key "json_output"]
  | labels => [.key "labels"]
  | strict => [.key "labels", .key "strict"]

/-- In the order in which issues are reported. -/
def all : List Spot := [logging, level, jsonOutput, labels, strict]

end Spot

section Reported

end Reported

end Clearance.Config
