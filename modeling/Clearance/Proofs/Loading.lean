import Clearance.Command
import Clearance.Proofs.Overlay

/-! What loading a configuration fails with, and how a command ends that meets the failure. -/
namespace Clearance.Config

/-- There is a file or there is none, and the text of a file has a value or is malformed. -/
inductive Source.Plain : Source → Prop
  | missing : Plain .missing
  | malformed : Plain (.unreadable .malformed)
  | document (v : Item) (others : Nat → Entries) : Plain (.document v others)

/-- The failures that callers are told to expect: no file, a malformed one, one that holds no
mapping and one whose content is invalid. -/
inductive Failure.Documented : Failure → Prop
  | missing (path : String) : Documented (.missing path)
  | malformed (path : String) : Documented (.unreadable path .malformed)
  | notMapping (path : String) (found : Item) : Documented (.notMapping path found)
  | invalid (path : String) (issues : List Issue) : Documented (.invalid path issues)

/-- A document that cannot even be validated: a variable would write into a section that cannot take
a key, or a key at the top is no string. -/
def Unfit (env : Environment) (doc : Document) : Prop :=
  (∃ o ∈ overrides, ∃ v, o.Blocked env doc v) ∨ ∃ e ∈ doc.top, isString e.1 = false

/-- What is wrong with an unfit document. Its sections are looked at before its keys. -/
inductive Failure.Blames (env : Environment) (doc : Document) : Failure → Prop
  | misfit {o v} (override : o ∈ overrides) (blocked : o.Blocked env doc v) :
      Blames env doc (.misfit v)
  | oddKey {e} (unblocked : ∀ o ∈ overrides, ∀ v, ¬ o.Blocked env doc v)
      (entry : e ∈ doc.top)
      (odd : isString e.1 = false) : Blames env doc .oddKey

section Load
variable {env : Environment} {path : String} {source : Source} {doc : Document} {f : Failure}

lemma Failure.Blames.unfit (h : f.Blames env doc) : Unfit env doc := by
  cases h with
  | misfit override blocked => exact .inl ⟨_, override, _, blocked⟩
  | oddKey _ entry odd => exact .inr ⟨_, entry, odd⟩

lemma Failure.Blames.not_documented (h : f.Blames env doc) : ¬ f.Documented := by
  cases h <;> exact nofun

lemma not_unfit_nil (env : Environment) : ¬ Unfit env { top := [] } := by
  rintro (⟨_, _, _, _, hfound, _⟩ | ⟨_, he, _⟩)
  · contradiction
  · contradiction

lemma not_blocked_of_overlay {doc' : Document} (h : overlay env doc = .ok doc') :
    ∀ o ∈ overrides, ∀ v, ¬ o.Blocked env doc v := by
  intro o ho v hb
  obtain ⟨w, hw⟩ := exists_overlay_error_iff.mpr ⟨o, ho, v, hb⟩
  rw [h] at hw
  contradiction

lemma not_unfit_of_overlay {doc' : Document} (ho : overlay env doc = .ok doc')
    (hk : doc.top.all (fun e => isString e.1) = true) : ¬ Unfit env doc := by
  rintro (⟨o, hmem, v, hb⟩ | ⟨e, he, hodd⟩)
  · exact not_blocked_of_overlay ho o hmem v hb
  · rw [List.all_eq_true.mp hk e he] at hodd
    contradiction

lemma prepare_of_overlay_error {v : Item} (h : document path source = .ok doc)
    (ho : overlay env doc = .error v) : prepare env path source = .error (.misfit v) := by
  simp only [prepare, h, ho]

lemma prepare_of_overlay {doc' : Document} (h : document path source = .ok doc)
    (ho : overlay env doc = .ok doc') : prepare env path source =
      if doc.top.all (fun e => isString e.1) then .ok doc' else .error .oddKey := by
  simp only [prepare, h, ho, all_isString_of_overlay ho]

/-- A document is prepared for validation, or it is unfit and blamed for that. -/
theorem prepare_cases (env : Environment) (h : document path source = .ok doc) :
    (∃ f, prepare env path source = .error f ∧ f.Blames env doc) ∨
    ∃ doc', overlay env doc = .ok doc' ∧ prepare env path source = .ok doc' ∧
      ¬ Unfit env doc := by
  cases ho : overlay env doc with
  | error v =>
    obtain ⟨o, hmem, hb⟩ := blocked_of_overlayWith distinct_overrides ho
    exact .inl ⟨_, prepare_of_overlay_error h ho, .misfit hmem hb⟩
  | ok doc' =>
    rw [prepare_of_overlay h ho]
    cases hk : doc.top.all fun e => isString e.1 with
    | true => exact .inr ⟨doc', rfl, rfl, not_unfit_of_overlay ho hk⟩
    | false =>
      obtain ⟨e, he, hodd⟩ := List.all_eq_false.mp hk
      exact .inl ⟨_, rfl, .oddKey (not_blocked_of_overlay ho) he (by simpa using hodd)⟩

lemma load_value (env : Environment) (path : String) (source : Source) :
    (load env path source).value =
      prepare env path source >>= fun doc =>
        (validate doc).value.mapError (Failure.invalid path) := by
  unfold load
  cases prepare env path source with
  | error f => rfl
  | ok doc =>
    show Audited.value _ = (validate doc).value.mapError (Failure.invalid path)
    rw [Audited.andThen_value]
    cases (validate doc).value <;> rfl

lemma load_value_of_prepared (h : prepare env path source = .ok doc) :
    (load env path source).value = (validate doc).value.mapError (Failure.invalid path) := by
  rw [load_value, h]
  rfl

/-- A file that is there and well formed holds a mapping, perhaps an empty one, or something that is
told of. -/
lemma document_cases (hs : source.Plain) (path : String) :
    (∃ f, document path source = .error f ∧ f.Documented ∧
      ∀ entries others, source ≠ .document (.map entries) others) ∨
    (∃ others, source = .document .null others) ∨
    ∃ entries others, source = .document (.map entries) others := by
  cases hs with
  | missing => exact .inl ⟨_, rfl, .missing path, nofun⟩
  | malformed => exact .inl ⟨_, rfl, .malformed path, nofun⟩
  | document v others =>
    cases v with
    | null => exact .inr (.inl ⟨others, rfl⟩)
    | map entries => exact .inr (.inr ⟨entries, others, rfl⟩)
    | _ => exact .inl ⟨_, rfl, .notMapping path _, nofun⟩

lemma documented_of_prepared (hp : prepare env path source = .ok doc)
    (h : (load env path source).value = .error f) : f.Documented := by
  rw [load_value, hp] at h
  change (validate doc).value.mapError _ = _ at h
  cases hv : (validate doc).value with
  | ok settings =>
    rw [hv] at h
    contradiction
  | error issues =>
    rw [hv] at h
    obtain rfl := Except.error.inj h
    exact .invalid path issues

/-- Loading fails as documented unless the document is unfit; then the failure is another one. -/
theorem load_failure (hs : source.Plain) (h : (load env path source).value = .error f) :
    (f.Documented ∧ ∀ entries others, source = .document (.map entries) others →
      ¬ Unfit env ⟨entries, others⟩) ∨
    ∃ entries others, source = .document (.map entries) others ∧
      f.Blames env ⟨entries, others⟩ := by
  obtain ⟨g, hd, hg, hnone⟩ | ⟨others, rfl⟩ | ⟨entries, others, rfl⟩ := document_cases hs path
  · have hload : (load env path source).value = .error g := by
      rw [load_value, prepare, hd]
      rfl
    obtain rfl := Except.error.inj (hload.symm.trans h)
    exact .inl ⟨hg, fun entries others he => absurd he (hnone entries others)⟩
  · have hd : document path (.document .null others) = .ok { top := [] } := rfl
    obtain ⟨g, _, hblames⟩ | ⟨doc', _, hp, _⟩ := prepare_cases env hd
    · exact absurd hblames.unfit (not_unfit_nil env)
    · exact .inl ⟨documented_of_prepared hp h, nofun⟩
  · have hd : document path (.document (.map entries) others) = .ok ⟨entries, others⟩ := rfl
    obtain ⟨g, hp, hblames⟩ | ⟨doc', _, hp, hfit⟩ := prepare_cases env hd
    · rw [load_value, hp] at h
      obtain rfl := Except.error.inj h
      exact .inr ⟨entries, others, rfl, hblames⟩
    · refine .inl ⟨documented_of_prepared hp h, ?_⟩
      rintro _ _ ⟨⟩
      exact hfit

lemma exists_load_error_of_unfit {entries : Entries} {others : Nat → Entries} (path : String)
    (h : Unfit env ⟨entries, others⟩) :
    ∃ f, (load env path (.document (.map entries) others)).value = .error f := by
  have hd : document path (.document (.map entries) others) = .ok ⟨entries, others⟩ := rfl
  obtain ⟨f, hp, _⟩ | ⟨_, _, _, hfit⟩ := prepare_cases env hd
  · exact ⟨f, by rw [load_value, hp]; rfl⟩
  · exact absurd h hfit

/-- A command tells of the failures that are documented and crashes at the others. -/
lemma exitCode_of_load_error (front : Command.Front) (log : Command.Log) (credentials : Text)
    (h : (load env path source).value = .error f) :
    (Command.policies front log env credentials path source).answer.exitCode =
      if f.isForeseen then 2 else 1 := by
  simp only [Command.policies, h]
  cases f.isForeseen <;> rfl

lemma Failure.Documented.isForeseen (h : f.Documented) : f.isForeseen = true := by
  cases h <;> rfl

lemma Failure.Blames.isForeseen (h : f.Blames env doc) : f.isForeseen = false := by
  cases h <;> rfl

/-- Whatever a file holds and whatever variables are set, loading gives settings or fails as
documented, and then the command ends with the exit code for what is invalid. Unfit documents are
the one exception: they are never loaded, the failure is not among the documented ones, and the
command ends with the exit code of a denial. -/
theorem load_documented_unless_unfit (hs : source.Plain) (env : Environment) (path : String)
    (front : Command.Front) (log : Command.Log) (credentials : Text) :
    let loaded := (load env path source).value
    let exitCode := (Command.policies front log env credentials path source).answer.exitCode
    ((∀ entries others, source = .document (.map entries) others →
        ¬ Unfit env ⟨entries, others⟩) →
      (∃ settings, loaded = .ok settings) ∨
        ∃ f, loaded = .error f ∧ f.Documented ∧ exitCode = 2) ∧
    ∀ entries others, source = .document (.map entries) others → Unfit env ⟨entries, others⟩ →
      ∃ f, loaded = .error f ∧ f.Blames env ⟨entries, others⟩ ∧ ¬ f.Documented ∧
        exitCode = 1 := by
  intro loaded exitCode
  constructor
  · intro hfit
    cases h : loaded with
    | ok settings => exact .inl ⟨settings, rfl⟩
    | error f =>
      obtain ⟨hdocumented, _⟩ | ⟨entries, others, he, hblames⟩ := load_failure hs h
      · refine .inr ⟨f, rfl, hdocumented, ?_⟩
        exact (exitCode_of_load_error front log credentials h).trans
          (if_pos hdocumented.isForeseen)
      · exact absurd hblames.unfit (hfit entries others he)
  · rintro entries others rfl hunfit
    obtain ⟨f, h⟩ := exists_load_error_of_unfit path hunfit
    obtain ⟨_, hfit⟩ | ⟨_, _, ⟨⟩, hblames⟩ := load_failure hs h
    · exact absurd hunfit (hfit entries others rfl)
    · refine ⟨f, h, hblames, hblames.not_documented, ?_⟩
      rw [show exitCode = _ from exitCode_of_load_error front log credentials h,
        hblames.isForeseen]
      rfl

end Load

/-- One key of the document is a number. -/
theorem load_documented_unless_odd_key :
    let entries : Entries := [(.str "policies", .map []), (.int 1, .str "a")]
    let source : Source := .document (.map entries)
    let run := Command.policies ⟨false, false, .policies, []⟩ ⟨20, false⟩ [] ['a'] "c.yaml" source
    source.Plain ∧ Unfit [] { top := entries } ∧
    ∃ f, (load [] "c.yaml" source).value = .error f ∧ f.Blames [] { top := entries } ∧
      ¬ f.Documented ∧ run.answer.exitCode = 1 := by
  intro entries source run
  have hunfit : Unfit [] { top := entries } := .inr ⟨(.int 1, .str "a"), by simp [entries], rfl⟩
  have hplain : source.Plain := .document _ _
  exact ⟨hplain, hunfit,
    (load_documented_unless_unfit hplain [] "c.yaml" _ _ ['a']).2 entries _ rfl hunfit⟩

/-- A number stands where the section for logging should, and a variable of that section is set. -/
theorem load_undocumented_misfit :
    let source : Source := .document (.map [(.str "logging", .int 5)])
    let env : Environment := [("LABEL_AUTHZ_LOGGING_LEVEL", "DEBUG")]
    let run := Command.policies ⟨false, false, .policies, []⟩ ⟨20, false⟩ env ['a'] "c.yaml" source
    source.Plain ∧ (load env "c.yaml" source).value = .error (.misfit (.int 5)) ∧
      ¬ (Failure.misfit (.int 5)).Documented ∧ run.answer.exitCode = 1 :=
  ⟨.document _ _, rfl, nofun, rfl⟩

end Clearance.Config
