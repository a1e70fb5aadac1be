import Clearance.Config.Load
import Mathlib.Tactic.Common

/-! When the environment can be laid over a document, and which sections it leaves as they were. -/
namespace Clearance.Config

/-- A section that cannot take a key: it is there, and it is neither null nor a mapping. -/
structure Rigid (doc : Document) (part : String) (v : Item) : Prop where
  found : Value.find? doc.top part = some v
  not_null : v ≠ .null
  not_map : ∀ entries, v ≠ .map entries
  not_shared : ∀ n, v ≠ .shared n

/-- A section that stands in one place, with its entries. One that is missing or null has none. -/
inductive Own (doc : Document) (part : String) : Entries → Prop
  | missing (found : Value.find? doc.top part = none) : Own doc part []
  | null (found : Value.find? doc.top part = some .null) : Own doc part []
  | map {entries : Entries} (found : Value.find? doc.top part = some (.map entries)) :
      Own doc part entries

/-- The entries of a section. There are none where no mapping is. -/
def Document.entriesAt (doc : Document) (part : String) : Entries :=
  ((doc.section? part).bind id).getD []

namespace Override

/-- A variable that is set and would write into a section that cannot take a key. -/
def Blocked (o : Override) (env : Environment) (doc : Document) (v : Item) : Prop :=
  (env.find? o.variableName).isSome ∧ Rigid doc o.part v

def IsSet (o : Override) (env : Environment) : Prop := (env.find? o.variableName).isSome

instance (o : Override) (env : Environment) : Decidable (o.IsSet env) :=
  inferInstanceAs (Decidable ((env.find? o.variableName).isSome = true))

/-- What is written for a variable does not come into a section: by its number it is neither the
mapping at the top nor that in the section of the variable. -/
def Spares (o : Override) (doc : Document) (part : String) : Prop :=
  ∀ n, Value.find? doc.top part = some (.shared n) →
    n ≠ 0 ∧ Value.find? doc.top o.part ≠ some (.shared n)

/-- Keys are told apart, from each other and from the names of the sections. -/
structure Distinct (os : List Override) : Prop where
  keys : os.Pairwise fun o p => o.key ≠ p.key
  parts : ∀ o ∈ os, ∀ p ∈ os, o.part ≠ p.key

end Override

/-- The overrides whose variables are set, in their order. -/
def inForce (env : Environment) (os : List Override) : List Override :=
  os.filter fun o => o.IsSet env

lemma distinct_overrides : Override.Distinct overrides :=
  ⟨by simp [overrides], by decide⟩

lemma Override.Distinct.tail {o : Override} {os : List Override} (h : Distinct (o :: os)) :
    Distinct os :=
  ⟨h.keys.tail, fun p hp q hq => h.parts p (.tail o hp) q (.tail o hq)⟩

section Sections
variable {doc doc' : Document} {part : String} {entries : Entries} {v : Item} {n : Nat}

lemma section?_of_find? (h : Value.find? doc.top part = some v) :
    doc.section? part = some (doc.entries? v) := by
  rw [Document.section?, h, Option.map_some]

lemma section?_of_none (h : Value.find? doc.top part = none) : doc.section? part = none := by
  rw [Document.section?, h, Option.map_none]

lemma entriesAt_of_section? (h : doc.section? part = some (some entries)) :
    doc.entriesAt part = entries := by
  rw [Document.entriesAt, h]
  rfl

lemma entriesAt_congr (h : doc'.section? part = doc.section? part) :
    doc'.entriesAt part = doc.entriesAt part := by
  rw [Document.entriesAt, Document.entriesAt, h]

lemma Own.entriesAt (h : Own doc part entries) : doc.entriesAt part = entries := by
  cases h with
  | missing found => rw [Document.entriesAt, section?_of_none found]; rfl
  | null found => rw [Document.entriesAt, section?_of_find? found]; rfl
  | map found => exact entriesAt_of_section? (section?_of_find? found)

lemma Own.not_shared (h : Own doc part entries) (n : Nat) :
    Value.find? doc.top part ≠ some (.shared n) := by
  cases h with
  | missing found => simp [found]
  | null found => simp [found]
  | map found => simp [found]

lemma entriesAt_of_shared (h : Value.find? doc.top part = some (.shared n)) :
    doc.entriesAt part = doc.mapping n :=
  entriesAt_of_section? (section?_of_find? h)

/-- Only a numbered mapping is another one after a mapping has been written into. -/
lemma section?_congr (hfind : Value.find? doc'.top part = Value.find? doc.top part)
    (hn : ∀ n, Value.find? doc.top part = some (.shared n) → doc'.mapping n = doc.mapping n) :
    doc'.section? part = doc.section? part := by
  rw [Document.section?, Document.section?, hfind]
  cases hf : Value.find? doc.top part with
  | none => rfl
  | some v =>
    cases v with
    | shared n =>
      show some (some (doc'.mapping n)) = some (some (doc.mapping n))
      rw [hn n hf]
    | _ => rfl

end Sections

section Apply
variable {o : Override} {doc doc' : Document} {text part : String} {v : Item}

/-- A section that is refused is rigid, and nothing is rigid that is not refused. -/
lemma Override.apply_eq_error_iff : o.apply doc text = .error v ↔ Rigid doc o.part v := by
  unfold apply
  constructor
  · intro h
    split at h
    · contradiction
    · contradiction
    · contradiction
    · contradiction
    · rename_i w hnull hmap hshared hfound
      obtain rfl := Except.error.inj h
      exact ⟨hfound, hnull, hmap, hshared⟩
  · rintro ⟨hfound, hnull, hmap, hshared⟩
    rw [hfound]
    cases v with
    | null => contradiction
    | map entries => exact absurd rfl (hmap entries)
    | shared n => exact absurd rfl (hshared n)
    | _ => rfl

/-- All that a variable can do: its key is put into the section where the section stands, or into
the mapping that has the number of the section. -/
theorem Override.apply_cases (h : o.apply doc text = .ok doc') :
    (∃ entries, Own doc o.part entries ∧ doc' = { doc with
      top := Value.put doc.top o.part (.map (Value.put entries o.key (o.value text))) }) ∨
    ∃ n, Value.find? doc.top o.part = some (.shared n) ∧
      doc' = doc.setMapping n (Value.put (doc.mapping n) o.key (o.value text)) := by
  unfold apply at h
  split at h
  · next hf => exact .inl ⟨[], .missing hf, (Except.ok.inj h).symm⟩
  · next hf => exact .inl ⟨[], .null hf, (Except.ok.inj h).symm⟩
  · next entries hf => exact .inl ⟨entries, .map hf, (Except.ok.inj h).symm⟩
  · next n hf => exact .inr ⟨n, hf, (Except.ok.inj h).symm⟩
  · contradiction

lemma find?_setMapping_put {n : Nat} {key : String} (h : part = key → n ≠ 0) (doc : Document)
    (v : Item) : Value.find? (doc.setMapping n (Value.put (doc.mapping n) key v)).top part =
      Value.find? doc.top part := by
  cases n with
  | zero => exact Value.find?_put_of_ne doc.top v fun hp => h hp rfl
  | succ n => rfl

/-- A key is put in place of none of the other sections. It could be the name of one only if the
section of the variable were the mapping at the top. -/
lemma find?_of_apply (h : o.apply doc text = .ok doc') (hp : part ≠ o.part)
    (hk : part = o.key → Value.find? doc.top o.part ≠ some (.shared 0)) :
    Value.find? doc'.top part = Value.find? doc.top part := by
  obtain ⟨entries, _, rfl⟩ | ⟨n, hn, rfl⟩ := Override.apply_cases h
  · exact Value.find?_put_of_ne doc.top _ hp
  · refine find?_setMapping_put ?_ doc _
    rintro hkey rfl
    exact hk hkey hn

/-- Sections have the numbers that they had. -/
lemma shared_of_apply_iff (h : o.apply doc text = .ok doc') (hk : part ≠ o.key) (n : Nat) :
    Value.find? doc'.top part = some (.shared n) ↔ Value.find? doc.top part = some (.shared n) := by
  by_cases hp : part = o.part
  · subst hp
    obtain ⟨entries, hown, rfl⟩ | ⟨m, _, rfl⟩ := Override.apply_cases h
    · simp [hown.not_shared]
    · rw [find?_setMapping_put (fun hkey => absurd hkey hk)]
  · rw [find?_of_apply h hp (fun hkey => absurd hkey hk)]

/-- The section of a variable is a mapping from then on, with the key put into it. -/
lemma section?_part_of_apply (h : o.apply doc text = .ok doc') (hk : o.part ≠ o.key) :
    doc'.section? o.part =
      some (some (Value.put (doc.entriesAt o.part) o.key (o.value text))) := by
  obtain ⟨entries, hown, rfl⟩ | ⟨n, hn, rfl⟩ := Override.apply_cases h
  · rw [hown.entriesAt, Document.section?, Value.find?_put_self]
    rfl
  · have hfind := find?_setMapping_put (n := n) (fun hkey => absurd hkey hk) doc (o.value text)
    rw [section?_of_find? (hfind.trans hn), entriesAt_of_shared hn, Document.entries?,
      Document.mapping_setMapping_self]

lemma find?_mapping_of_apply (h : o.apply doc text = .ok doc') (n : Nat) {key : String}
    (hkey : key ≠ o.key ∧ key ≠ o.part) :
    Value.find? (doc'.mapping n) key = Value.find? (doc.mapping n) key := by
  obtain ⟨entries, _, rfl⟩ | ⟨m, _, rfl⟩ := Override.apply_cases h
  · cases n with
    | zero => exact Value.find?_put_of_ne _ _ hkey.2
    | succ n => rfl
  · by_cases hn : n = m
    · rw [hn, Document.mapping_setMapping_self, Value.find?_put_of_ne _ _ hkey.1]
    · rw [Document.mapping_setMapping_of_ne doc hn]

/-- A section that is spared is as it was. -/
lemma section?_of_apply (h : o.apply doc text = .ok doc') (hp : part ≠ o.part)
    (hk : part = o.key → Value.find? doc.top o.part ≠ some (.shared 0))
    (hs : o.Spares doc part) : doc'.section? part = doc.section? part := by
  refine section?_congr (find?_of_apply h hp hk) ?_
  intro m hm
  obtain ⟨hzero, hne⟩ := hs m hm
  obtain ⟨entries, _, rfl⟩ | ⟨n, hn, rfl⟩ := Override.apply_cases h
  · cases m with
    | zero => contradiction
    | succ m => rfl
  · refine Document.mapping_setMapping_of_ne doc ?_ _
    rintro rfl
    exact hne hn

/-- A key of a section that is neither the key of the variable nor the name of its section keeps its
value, also in a section that stands in the place that is written into. -/
lemma find?_entriesAt_of_apply (h : o.apply doc text = .ok doc') (hp : part ≠ o.key) {key : String}
    (hkey : key ≠ o.key ∧ key ≠ o.part) :
    Value.find? (doc'.entriesAt part) key = Value.find? (doc.entriesAt part) key := by
  by_cases hpart : part = o.part
  · subst hpart
    rw [entriesAt_of_section? (section?_part_of_apply h hp),
      Value.find?_put_of_ne _ _ hkey.1]
  · have hfind := find?_of_apply h hpart fun hk => absurd hk hp
    by_cases hs : ∃ n, Value.find? doc.top part = some (.shared n)
    · obtain ⟨n, hn⟩ := hs
      rw [entriesAt_of_shared hn, entriesAt_of_shared (hfind.trans hn)]
      exact find?_mapping_of_apply h n hkey
    · rw [entriesAt_congr (section?_congr hfind fun n hn => absurd ⟨n, hn⟩ hs)]

/-- Writing into one section makes none of them fit or unfit to be written into. -/
lemma rigid_of_apply_iff (h : o.apply doc text = .ok doc') (hk : part ≠ o.key) :
    Rigid doc' part v ↔ Rigid doc part v := by
  by_cases hp : part = o.part
  · subst hp
    constructor
    · intro hr
      have hsection := section?_part_of_apply h hk
      rw [section?_of_find? hr.found] at hsection
      cases v with
      | map entries => exact absurd rfl (hr.not_map entries)
      | shared n => exact absurd rfl (hr.not_shared n)
      | _ => cases hsection
    · intro hr
      rw [Override.apply_eq_error_iff.mpr hr] at h
      contradiction
  · have hfind := find?_of_apply h hp (fun hkey => absurd hkey hk)
    exact ⟨fun hr => { hr with found := hfind ▸ hr.found },
      fun hr => { hr with found := hfind.trans hr.found }⟩

lemma all_put (p : Item → Bool) (hp : ∀ s, p (.str s) = true) (entries : Entries) (key : String)
    (v : Item) : (Value.put entries key v).all (fun e => p e.1) =
      entries.all fun e => p e.1 := by
  fun_induction Value.put entries key v with
  | case1 => simp [hp]
  | case2 => simp [hp]
  | case3 s w rest hs ih => simp [hp, ih]
  | case4 e rest he ih => simp [ih]

/-- Keys that are added are strings. -/
lemma all_isString_of_apply (h : o.apply doc text = .ok doc') :
    doc'.top.all (fun e => isString e.1) = doc.top.all fun e => isString e.1 := by
  obtain ⟨entries, _, rfl⟩ | ⟨n, _, rfl⟩ := Override.apply_cases h
  · exact all_put isString (fun _ => rfl) ..
  · cases n with
    | zero => exact all_put isString (fun _ => rfl) ..
    | succ n => rfl

end Apply

section Overlay
variable {env : Environment} {os : List Override} {o : Override} {doc doc' : Document} {v : Item}
  {part : String}

/-- A variable that is not set is passed over; one that is set is refused or leaves a document to
the next. -/
lemma overlayWith_cons_cases (env : Environment) (o : Override) (os : List Override)
    (doc : Document) :
    (env.find? o.variableName = none ∧
      overlayWith env (o :: os) doc = overlayWith env os doc) ∨
    ∃ text, env.find? o.variableName = some text ∧
      ((∃ v, o.apply doc text = .error v ∧ overlayWith env (o :: os) doc = .error v) ∨
        ∃ doc', o.apply doc text = .ok doc' ∧
          overlayWith env (o :: os) doc = overlayWith env os doc') := by
  cases he : env.find? o.variableName with
  | none => exact .inl ⟨rfl, by rw [overlayWith, he]⟩
  | some text =>
    have hbind : overlayWith env (o :: os) doc = o.apply doc text >>= overlayWith env os := by
      rw [overlayWith, he]
    refine .inr ⟨text, rfl, ?_⟩
    rw [hbind]
    cases ha : o.apply doc text with
    | error v => exact .inl ⟨v, rfl, rfl⟩
    | ok doc' => exact .inr ⟨doc', rfl, rfl⟩

lemma overlayWith_cons_eq_ok (h : overlayWith env (o :: os) doc = .ok doc') :
    (inForce env (o :: os) = inForce env os ∧ env.find? o.variableName = none ∧
      overlayWith env os doc = .ok doc') ∨
    ∃ text d, inForce env (o :: os) = o :: inForce env os ∧
      env.find? o.variableName = some text ∧ o.apply doc text = .ok d ∧
      overlayWith env os d = .ok doc' := by
  obtain ⟨he, heq⟩ | ⟨text, he, ⟨_, _, heq⟩ | ⟨d, ha, heq⟩⟩ := overlayWith_cons_cases env o os doc
  · exact .inl ⟨by simp [inForce, Override.IsSet, he], he, heq.symm.trans h⟩
  · cases heq.symm.trans h
  · exact .inr ⟨text, d, by simp [inForce, Override.IsSet, he], he, ha, heq.symm.trans h⟩

/-- Overrides fail because of what the document holds before any of them, not for what one of them
leaves to the next. -/
theorem blocked_of_overlayWith (hos : Override.Distinct os)
    (h : overlayWith env os doc = .error v) : ∃ o ∈ os, o.Blocked env doc v := by
  induction os generalizing doc with
  | nil => contradiction
  | cons o os ih =>
    obtain ⟨_, heq⟩ | ⟨text, he, ⟨w, ha, heq⟩ | ⟨doc', ha, heq⟩⟩ :=
      overlayWith_cons_cases env o os doc
    · obtain ⟨o', ho', hb⟩ := ih hos.tail (heq.symm.trans h)
      exact ⟨o', List.mem_cons_of_mem o ho', hb⟩
    · obtain rfl := Except.error.inj (heq.symm.trans h)
      exact ⟨o, List.mem_cons_self, by simp [he], Override.apply_eq_error_iff.mp ha⟩
    · obtain ⟨o', ho', hset, hr⟩ := ih hos.tail (heq.symm.trans h)
      have hk := hos.parts o' (.tail o ho') o List.mem_cons_self
      exact ⟨o', List.mem_cons_of_mem o ho', hset, (rigid_of_apply_iff ha hk).mp hr⟩

theorem exists_overlayWith_error (hos : Override.Distinct os) (ho : o ∈ os)
    (h : o.Blocked env doc v) : ∃ w, overlayWith env os doc = .error w := by
  induction os generalizing doc with
  | nil => contradiction
  | cons o₁ os ih =>
    obtain ⟨he, heq⟩ | ⟨text, he, ⟨w, _, heq⟩ | ⟨doc', ha, heq⟩⟩ :=
      overlayWith_cons_cases env o₁ os doc
    · obtain rfl | ho := List.mem_cons.mp ho
      · simp [Override.Blocked, he] at h
      · exact heq ▸ ih hos.tail ho h
    · exact ⟨w, heq⟩
    · have hk := hos.parts o ho o₁ List.mem_cons_self
      obtain rfl | ho := List.mem_cons.mp ho
      · rw [Override.apply_eq_error_iff.mpr h.2] at ha
        contradiction
      · exact heq ▸ ih hos.tail ho ⟨h.1, (rigid_of_apply_iff ha hk).mpr h.2⟩

/-- The environment cannot be laid over a document just when a variable that is set would write into
a section that cannot take a key. -/
theorem exists_overlay_error_iff : (∃ v, overlay env doc = .error v) ↔
    ∃ o ∈ overrides, ∃ v, o.Blocked env doc v := by
  constructor
  · rintro ⟨v, h⟩
    obtain ⟨o, ho, hb⟩ := blocked_of_overlayWith distinct_overrides h
    exact ⟨o, ho, v, hb⟩
  · rintro ⟨o, ho, v, hb⟩
    exact exists_overlayWith_error distinct_overrides ho hb

lemma all_isString_of_overlay (h : overlay env doc = .ok doc') :
    doc'.top.all (fun e => isString e.1) = doc.top.all fun e => isString e.1 := by
  suffices hos : ∀ os doc, overlayWith env os doc = .ok doc' →
      doc'.top.all (fun e => isString e.1) = doc.top.all fun e => isString e.1 from hos _ _ h
  intro os doc h
  induction os generalizing doc with
  | nil => rw [Except.ok.inj h]
  | cons o os ih =>
    obtain ⟨_, _, hd⟩ | ⟨text, d, _, _, ha, hd⟩ := overlayWith_cons_eq_ok h
    · exact ih doc hd
    · rw [ih d hd, all_isString_of_apply ha]

end Overlay

end Clearance.Config
