import Clearance.Proofs.Policies

/-! What a configuration asks of the log has no say in what else it gives: documents that differ in
nothing but a sound section for logging fail alike, or give settings that decide alike. -/
namespace Clearance.Config

/-- One mapping stands in two sections. -/
def Joint (doc : Document) (part part' : String) : Prop :=
  ∃ n, Value.find? doc.top part = some (.shared n) ∧ Value.find? doc.top part' = some (.shared n)

/-- The section for logging is absent, or holds text for a level and a switch for lines of JSON. The
policies are another mapping than that of the log, and than that at the top. -/
structure LogsSoundly (doc : Document) : Prop where
  asked : ∃ asked, loggingSection doc = .ok asked
  apart : ¬ Joint doc "logging" "policies"
  below : Value.find? doc.top "policies" ≠ some (.shared 0)

/-- Documents with sound sections for logging that hold the same policies and the same strictness,
in sections that are alike as to whether keys can be put into them. -/
structure AlikeButLog (d e : Document) : Prop where
  policies : d.section? "policies" = e.section? "policies"
  strict : Value.find? (d.entriesAt "labels") "strict" =
    Value.find? (e.entriesAt "labels") "strict"
  rigid : ∀ v, Rigid d "labels" v ↔ Rigid e "labels" v
  null : Value.find? d.top "labels" = some .null ↔ Value.find? e.top "labels" = some .null
  joint : Joint d "labels" "policies" ↔ Joint e "labels" "policies"
  keys : (d.top.all fun entry => isString entry.1) = e.top.all fun entry => isString entry.1
  left : LogsSoundly d
  right : LogsSoundly e

/-- What two paths lead to is the same, or two documents that only the log tells apart. -/
inductive Source.AlikeButLog : Source → Source → Prop
  | same (s : Source) : AlikeButLog s s
  | documents {s t : Source} {d e : Document} (left : ∀ path, Config.document path s = .ok d)
      (right : ∀ path, Config.document path t = .ok e) (alike : Config.AlikeButLog d e) :
      AlikeButLog s t

section Alike
variable {d e f : Document}

lemma AlikeButLog.symm (h : AlikeButLog d e) : AlikeButLog e d :=
  ⟨h.policies.symm, h.strict.symm, fun v => (h.rigid v).symm, h.null.symm, h.joint.symm,
    h.keys.symm, h.right, h.left⟩

lemma AlikeButLog.trans (h : AlikeButLog d e) (h' : AlikeButLog e f) : AlikeButLog d f :=
  ⟨h.policies.trans h'.policies, h.strict.trans h'.strict,
    fun v => (h.rigid v).trans (h'.rigid v), h.null.trans h'.null, h.joint.trans h'.joint,
    h.keys.trans h'.keys, h.left, h'.right⟩

end Alike

section Apply
variable {o : Override} {doc doc' d e : Document} {part part' key text : String}
  {entries : Entries}

lemma Joint.section?_eq (h : Joint doc part part') : doc.section? part = doc.section? part' := by
  obtain ⟨n, hn, hn'⟩ := h
  rw [section?_of_find? hn, section?_of_find? hn']

lemma joint_of_apply_iff (ha : o.apply doc text = .ok doc') (hp : part ≠ o.key)
    (hp' : part' ≠ o.key) : Joint doc' part part' ↔ Joint doc part part' := by
  simp only [Joint, shared_of_apply_iff ha hp, shared_of_apply_iff ha hp']

lemma misplaced_iff : Misplaced doc part ↔
    Value.find? doc.top part = some .null ∨ ∃ v, Rigid doc part v := by
  constructor
  · intro h
    obtain ⟨v, hv, hnone⟩ := Option.map_eq_some_iff.mp h
    by_cases hnull : v = .null
    · exact .inl (hnull ▸ hv)
    · refine .inr ⟨v, hv, hnull, ?_, ?_⟩
      · rintro entries rfl
        contradiction
      · rintro n rfl
        contradiction
  · rintro (h | ⟨v, hv, hnull, hmap, hshared⟩)
    · exact section?_of_find? h
    · rw [Misplaced, section?_of_find? hv]
      cases v with
      | map entries => exact absurd rfl (hmap entries)
      | shared n => exact absurd rfl (hshared n)
      | _ => rfl

lemma not_rigid_of_apply (ha : o.apply doc text = .ok doc') (v : Item) : ¬ Rigid doc o.part v := by
  intro hr
  rw [Override.apply_eq_error_iff.mpr hr] at ha
  contradiction

/-- A section that a key is put into is not misplaced, and no other comes to be. -/
lemma not_misplaced_of_apply (ha : o.apply doc text = .ok doc') (hk : part ≠ o.key)
    (h : ¬ Misplaced doc part) : ¬ Misplaced doc' part := by
  by_cases hp : part = o.part
  · subst hp
    rw [Misplaced, section?_part_of_apply ha hk]
    simp
  · have hfind := find?_of_apply ha hp fun hpart => absurd hpart hk
    simpa only [misplaced_iff, hfind, rigid_of_apply_iff ha hk] using h

lemma field_congr {α : Type} {Of : Item → α → Prop} {entries entries' : Entries} {default a : α}
    (h : Value.find? entries' key = Value.find? entries key) :
    Field entries' key default Of a ↔ Field entries key default Of a := by
  rw [Field, Field, h]

lemma loggingSection_sound_iff : (∃ asked, loggingSection doc = .ok asked) ↔
    ¬ Misplaced doc "logging" ∧
    (∃ level, Field (doc.entriesAt "logging") "level" "INFO" TextOf level) ∧
    ∃ json, Field (doc.entriesAt "logging") "json_output" false SwitchOf json := by
  constructor
  · rintro ⟨⟨level, json⟩, h⟩
    obtain ⟨entries, hs, hl, hj⟩ := loggingSection_eq_ok_iff.mp h
    obtain ⟨hm, rfl⟩ := section_iff_entriesAt.mp hs
    exact ⟨hm, ⟨level, hl⟩, json, hj⟩
  · rintro ⟨hm, ⟨level, hl⟩, json, hj⟩
    exact ⟨(level, json), loggingSection_eq_ok_iff.mpr
      ⟨_, section_iff_entriesAt.mpr ⟨hm, rfl⟩, hl, hj⟩⟩

/-- No section has the name of a key. -/
lemma names_of_overrides : ∀ o ∈ overrides,
    ("logging" ≠ o.key ∧ "labels" ≠ o.key) ∧ "policies" ≠ o.key ∧ "policies" ≠ o.part := by
  decide

/-- A variable sets text for the level and a boolean for the switch, so the section stays sound. -/
theorem LogsSoundly.apply (h : LogsSoundly doc) (ho : o ∈ overrides)
    (ha : o.apply doc text = .ok doc') : LogsSoundly doc' := by
  obtain ⟨⟨hlogging, _⟩, hpolicies, _⟩ := names_of_overrides o ho
  obtain ⟨hm, ⟨level, hl⟩, json, hj⟩ := loggingSection_sound_iff.mp h.asked
  have hm' := not_misplaced_of_apply ha hlogging hm
  have hput : o.part = "logging" →
      Value.find? (doc'.entriesAt "logging") o.key = some (o.value text) := by
    intro hp
    have hsection := section?_part_of_apply ha (hp ▸ hlogging)
    rw [hp] at hsection
    rw [entriesAt_of_section? hsection, Value.find?_put_self]
  have hkept {key : String} (hkey : key ≠ o.key ∧ key ≠ o.part) :
      Value.find? (doc'.entriesAt "logging") key = Value.find? (doc.entriesAt "logging") key :=
    find?_entriesAt_of_apply ha hlogging hkey
  refine ⟨loggingSection_sound_iff.mpr ⟨hm', ?_⟩, ?_, ?_⟩
  · simp only [overrides, List.mem_cons, List.not_mem_nil, or_false] at ho
    obtain rfl | rfl | rfl := ho
    · exact ⟨⟨text, .inr ⟨_, hput rfl, .str text⟩⟩, json,
        (field_congr (hkept (by decide))).mpr hj⟩
    · exact ⟨⟨level, (field_congr (hkept (by decide))).mpr hl⟩, _,
        .inr ⟨_, hput rfl, .bool (switchedOn text)⟩⟩
    · exact ⟨⟨level, (field_congr (hkept (by decide))).mpr hl⟩, json,
        (field_congr (hkept (by decide))).mpr hj⟩
  · rw [joint_of_apply_iff ha hlogging hpolicies]
    exact h.apart
  · rw [ne_eq, shared_of_apply_iff ha hpolicies]
    exact h.below

/-- What a variable of the section for logging is written into stays alike with what it was. -/
theorem LogsSoundly.alikeButLog_of_apply (h : LogsSoundly doc) (ho : o ∈ overrides)
    (hp : o.part = "logging") (ha : o.apply doc text = .ok doc') : AlikeButLog doc doc' := by
  obtain ⟨⟨_, hlabels⟩, hpolicies, hpart⟩ := names_of_overrides o ho
  have hfind : Value.find? doc'.top "labels" = Value.find? doc.top "labels" :=
    find?_of_apply ha (by rw [hp]; decide) fun hk => absurd hk hlabels
  have hspared : o.Spares doc "policies" := by
    intro n hn
    refine ⟨?_, fun hn' => h.apart ⟨n, hp ▸ hn', hn⟩⟩
    rintro rfl
    exact h.below hn
  have hstrict : "strict" ≠ o.key ∧ "strict" ≠ o.part := by
    simp only [overrides, List.mem_cons, List.not_mem_nil, or_false] at ho
    obtain rfl | rfl | rfl := ho
    · decide
    · decide
    · contradiction
  refine ⟨(section?_of_apply ha hpart (fun hk => absurd hk hpolicies) hspared).symm,
    (find?_entriesAt_of_apply ha hlabels hstrict).symm,
    fun v => (rigid_of_apply_iff ha hlabels).symm, by rw [hfind],
    (joint_of_apply_iff ha hlabels hpolicies).symm, (all_isString_of_apply ha).symm, h,
    h.apply ho ha⟩

/-- The section for labels takes its variable in both documents or in neither, and where it is also
that of the policies it is so in both. -/
theorem AlikeButLog.apply_labels (h : AlikeButLog d e) (ho : o ∈ overrides)
    (hp : o.part = "labels") {d' e' : Document} (hd : o.apply d text = .ok d')
    (he : o.apply e text = .ok e') : AlikeButLog d' e' := by
  obtain ⟨⟨_, hlabels⟩, hpolicies, hpart⟩ := names_of_overrides o ho
  have hsection {doc doc' : Document} (ha : o.apply doc text = .ok doc') :
      doc'.section? "labels" =
        some (some (Value.put (doc.entriesAt "labels") o.key (o.value text))) := by
    rw [← hp] at hlabels ⊢
    exact section?_part_of_apply ha hlabels
  have hkey : o.key = "strict" := by
    simp only [overrides, List.mem_cons, List.not_mem_nil, or_false] at ho
    obtain rfl | rfl | rfl := ho
    · contradiction
    · contradiction
    · rfl
  have hfits {doc doc' : Document} (ha : o.apply doc text = .ok doc') :
      ¬ Misplaced doc' "labels" := by
    rw [Misplaced, hsection ha]
    simp
  have hjoint := joint_of_apply_iff hd hlabels hpolicies
  have hjoint' := joint_of_apply_iff he hlabels hpolicies
  have hpolicies' : d'.section? "policies" = e'.section? "policies" := by
    by_cases hj : Joint d "labels" "policies"
    · have hj' := h.joint.mp hj
      have hentries : d.entriesAt "labels" = e.entriesAt "labels" :=
        entriesAt_congr (hj.section?_eq.trans (h.policies.trans hj'.section?_eq.symm))
      rw [← (hjoint.mpr hj).section?_eq, ← (hjoint'.mpr hj').section?_eq, hsection hd,
        hsection he, hentries]
    · have hspared {doc : Document} (hl : LogsSoundly doc) (hj : ¬ Joint doc "labels" "policies") :
          o.Spares doc "policies" := by
        intro n hn
        refine ⟨?_, fun hn' => hj ⟨n, hp ▸ hn', hn⟩⟩
        rintro rfl
        exact hl.below hn
      have hkept := section?_of_apply hd hpart (fun hk => absurd hk hpolicies) (hspared h.left hj)
      have hkept' := section?_of_apply he hpart (fun hk => absurd hk hpolicies)
        (hspared h.right (mt h.joint.mpr hj))
      rw [hkept, hkept', h.policies]
  refine ⟨hpolicies', ?_, ?_, ?_, ?_, ?_, h.left.apply ho hd, h.right.apply ho he⟩
  · rw [entriesAt_of_section? (hsection hd), entriesAt_of_section? (hsection he), ← hkey,
      Value.find?_put_self, Value.find?_put_self]
  · exact fun v => iff_of_false (fun hr => hfits hd (misplaced_iff.mpr (.inr ⟨v, hr⟩)))
      fun hr => hfits he (misplaced_iff.mpr (.inr ⟨v, hr⟩))
  · exact iff_of_false (fun hn => hfits hd (misplaced_iff.mpr (.inl hn)))
      fun hn => hfits he (misplaced_iff.mpr (.inl hn))
  · rw [hjoint, hjoint', h.joint]
  · rw [all_isString_of_apply hd, all_isString_of_apply he, h.keys]

lemma apply_cases_of_rigid (o : Override) (doc : Document) (text : String) :
    (∃ v, Rigid doc o.part v ∧ o.apply doc text = .error v) ∨
      (∀ v, ¬ Rigid doc o.part v) ∧ ∃ doc', o.apply doc text = .ok doc' := by
  cases ha : o.apply doc text with
  | error v => exact .inl ⟨v, Override.apply_eq_error_iff.mp ha, rfl⟩
  | ok doc' => exact .inr ⟨not_rigid_of_apply ha, doc', rfl⟩

/-- Either neither document takes a variable, because of the same value, or both do and stay
alike. -/
theorem AlikeButLog.apply (h : AlikeButLog d e) (ho : o ∈ overrides) (text : String) :
    (∃ v, o.apply d text = .error v ∧ o.apply e text = .error v) ∨
    ∃ d' e', o.apply d text = .ok d' ∧ o.apply e text = .ok e' ∧ AlikeButLog d' e' := by
  have hparts : ∀ o ∈ overrides, o.part = "logging" ∨ o.part = "labels" := by decide
  obtain hp | hp := hparts o ho
  · have hfits {doc : Document} (hl : LogsSoundly doc) : ∃ doc', o.apply doc text = .ok doc' := by
      obtain ⟨v, hr, _⟩ | ⟨_, hok⟩ := apply_cases_of_rigid o doc text
      · exact absurd (misplaced_iff.mpr (.inr ⟨v, hp ▸ hr⟩))
          (loggingSection_sound_iff.mp hl.asked).1
      · exact hok
    obtain ⟨d', hd⟩ := hfits h.left
    obtain ⟨e', he⟩ := hfits h.right
    have hleft := (h.left.alikeButLog_of_apply ho hp hd).symm
    exact .inr ⟨d', e', hd, he,
      (hleft.trans h).trans (h.right.alikeButLog_of_apply ho hp he)⟩
  · obtain ⟨v, hr, hd⟩ | ⟨hr, d', hd⟩ := apply_cases_of_rigid o d text
    · have hr' : Rigid e o.part v := by
        rw [hp] at hr ⊢
        exact (h.rigid v).mp hr
      exact .inl ⟨v, hd, Override.apply_eq_error_iff.mpr hr'⟩
    · obtain ⟨v, hr', _⟩ | ⟨_, e', he⟩ := apply_cases_of_rigid o e text
      · rw [hp] at hr hr'
        exact absurd ((h.rigid v).mpr hr') (hr v)
      · exact .inr ⟨d', e', hd, he, h.apply_labels ho hp hd he⟩

end Apply

section Load
variable {env env' : Environment} {os : List Override} {d e : Document} {s t : Source}

lemma overlayWith_of_none {o : Override} (h : env.find? o.variableName = none) (os : List Override)
    (d : Document) : overlayWith env (o :: os) d = overlayWith env os d := by
  rw [overlayWith, h]

lemma overlayWith_of_some {o : Override} {text : String} (h : env.find? o.variableName = some text)
    (os : List Override) (d : Document) :
    overlayWith env (o :: os) d = o.apply d text >>= overlayWith env os := by
  rw [overlayWith, h]

lemma overlayWith_congr (henv : ∀ o ∈ os, env.find? o.variableName = env'.find? o.variableName)
    (d : Document) : overlayWith env os d = overlayWith env' os d := by
  induction os generalizing d with
  | nil => rfl
  | cons o os ih =>
    obtain ⟨ho, hos⟩ := List.forall_mem_cons.mp henv
    rw [overlayWith, overlayWith, ho, funext (ih hos)]

theorem AlikeButLog.overlayWith (h : AlikeButLog d e) (hos : os ⊆ overrides)
    (henv : ∀ o ∈ os, env.find? o.variableName = env'.find? o.variableName) :
    (∃ v, overlayWith env os d = .error v ∧ overlayWith env' os e = .error v) ∨
    ∃ d' e', overlayWith env os d = .ok d' ∧ overlayWith env' os e = .ok e' ∧
      AlikeButLog d' e' := by
  induction os generalizing d e with
  | nil => exact .inr ⟨d, e, rfl, rfl, h⟩
  | cons o os ih =>
    obtain ⟨ho, hrest⟩ := List.forall_mem_cons.mp henv
    obtain ⟨hmem, hos⟩ := List.cons_subset.mp hos
    cases hv : env.find? o.variableName with
    | none =>
      rw [overlayWith_of_none hv, overlayWith_of_none (ho ▸ hv)]
      exact ih h hos hrest
    | some text =>
      rw [overlayWith_of_some hv, overlayWith_of_some (ho ▸ hv)]
      obtain ⟨v, hd, he⟩ | ⟨d', e', hd, he, h'⟩ := h.apply hmem text
      · rw [hd, he]
        exact .inl ⟨v, rfl, rfl⟩
      · rw [hd, he]
        exact ih h' hos hrest

lemma AlikeButLog.labelsSection_eq (h : AlikeButLog d e) : labelsSection d = labelsSection e := by
  rw [Config.labelsSection_eq, Config.labelsSection_eq]
  have hmisplaced : Misplaced d "labels" ↔ Misplaced e "labels" := by
    simp only [misplaced_iff, h.null, h.rigid]
  by_cases hm : Misplaced d "labels"
  · rw [hm.ofSection_eq, (hmisplaced.mp hm).ofSection_eq]
  · have hd : Section d "labels" (d.entriesAt "labels") := section_iff_entriesAt.mpr ⟨hm, rfl⟩
    have he : Section e "labels" (e.entriesAt "labels") :=
      section_iff_entriesAt.mpr ⟨mt hmisplaced.mpr hm, rfl⟩
    rw [hd.ofSection_eq, he.ofSection_eq, entry, entry, h.strict]

/-- Validation reports the same of both, or gives settings with the same strictness and policies. -/
theorem AlikeButLog.validate (h : AlikeButLog d e) :
    (∃ is, (validate d).value = .error is ∧ (validate e).value = .error is) ∨
    ∃ a b, (validate d).value = .ok a ∧ (validate e).value = .ok b ∧ a.strict = b.strict ∧
      a.policies = b.policies := by
  obtain ⟨⟨level, json⟩, hd⟩ := h.left.asked
  obtain ⟨⟨level', json'⟩, he⟩ := h.right.asked
  have hlabels := h.labelsSection_eq
  have hpolicies : policiesSection d = policiesSection e := by
    unfold policiesSection
    rw [h.policies]
  rw [validate_value, validate_value, hd, he, hlabels, hpolicies]
  cases labelsSection e with
  | error is =>
    cases (policiesSection e).value with
    | error js => exact .inl ⟨_, rfl, rfl⟩
    | ok policies => exact .inl ⟨_, rfl, rfl⟩
  | ok strict =>
    cases (policiesSection e).value with
    | error js => exact .inl ⟨_, rfl, rfl⟩
    | ok policies => exact .inr ⟨_, _, rfl, rfl, rfl, rfl⟩

/-- Two documents that only the log tells apart are refused for the same reason, or both loaded,
with the same strictness and the same policies. -/
theorem Source.AlikeButLog.load (h : s.AlikeButLog t)
    (henv : ∀ o ∈ overrides, env.find? o.variableName = env'.find? o.variableName)
    (path : String) :
    (∃ f, (load env path s).value = .error f ∧ (load env' path t).value = .error f) ∨
    ∃ a b, (load env path s).value = .ok a ∧ (load env' path t).value = .ok b ∧
      a.strict = b.strict ∧ a.policies = b.policies := by
  cases h with
  | same =>
    have hprepare : prepare env path s = prepare env' path s := by
      unfold prepare overlay
      rw [funext (overlayWith_congr henv)]
    have hload : (Config.load env' path s).value = (Config.load env path s).value := by
      rw [load_value, load_value, hprepare]
    rw [hload]
    cases (Config.load env path s).value with
    | error f => exact .inl ⟨f, rfl, rfl⟩
    | ok a => exact .inr ⟨a, a, rfl, rfl, rfl, rfl⟩
  | documents hs ht hde =>
    obtain ⟨v, hd, he⟩ | ⟨d', e', hd, he, halike⟩ := hde.overlayWith (List.Subset.refl _) henv
    · rw [load_value, load_value, prepare_of_overlay_error (hs path) hd,
        prepare_of_overlay_error (ht path) he]
      exact .inl ⟨_, rfl, rfl⟩
    · have hpd := prepare_of_overlay (hs path) hd
      have hpe := prepare_of_overlay (ht path) he
      rw [hde.keys] at hpd
      split at hpd
      · rw [if_pos ‹_›] at hpe
        rw [load_value_of_prepared hpd, load_value_of_prepared hpe]
        obtain ⟨is, hvd, hve⟩ | ⟨a, b, hvd, hve, hab⟩ := halike.validate
        · rw [hvd, hve]
          exact .inl ⟨_, rfl, rfl⟩
        · rw [hvd, hve]
          exact .inr ⟨a, b, rfl, rfl, hab⟩
      · rw [if_neg ‹_›] at hpe
        rw [load_value, load_value, hpd, hpe]
        exact .inl ⟨_, rfl, rfl⟩

end Load

end Clearance.Config
