import Clearance.Proofs.Loading
import Clearance.Proofs.Validation
import Mathlib.Data.List.Forall2

/-! Policies that validation lets through, which no later reading refuses, and the policy that is
named when it does not. -/
namespace Clearance.Config

/-- A policy as a document holds it. -/
def policyPair (p : String × String) : Item × Item := (.str p.1, .str p.2)

/-- What an entry is read as: a text for the name and one for the expression. -/
def PolicyOf (e : Item × Item) (p : String × String) : Prop := TextOf e.1 p.1 ∧ TextOf e.2 p.2

/-- The policies that a document gives. Of entries whose names are read alike the last counts, in
the place of the first. -/
def Policies (doc : Document) (policies : List (String × String)) : Prop :=
  ∃ entries ps, Section doc "policies" entries ∧ List.Forall₂ PolicyOf entries ps ∧
    gathered ps = policies

/-- A policy whose expression is read without a refusal. -/
def Readable (p : String × String) : Prop := ∃ e, Expr.parse p.2.toList = .ok e

section Gathered
variable {policies : List (String × String)}

lemma enter_of_not_mem {p : String × String} (h : p.1 ∉ policies.map Prod.fst) :
    gathered.enter policies p = policies ++ [p] := by
  induction policies with
  | nil => rfl
  | cons q rest ih =>
    obtain ⟨hq, hrest⟩ : p.1 ≠ q.1 ∧ p.1 ∉ rest.map Prod.fst := by simpa using h
    rw [gathered.enter, if_neg (Ne.symm hq), ih hrest, List.cons_append]

/-- Policies of different names are all there, in their order. -/
lemma gathered_of_nodup (h : (policies.map Prod.fst).Nodup) : gathered policies = policies := by
  suffices hfold : ∀ rest known : List (String × String), ((known ++ rest).map Prod.fst).Nodup →
      rest.foldl gathered.enter known = known ++ rest from hfold policies [] h
  intro rest
  induction rest with
  | nil => simp
  | cons p rest ih =>
    intro known hnames
    have hnew : p.1 ∉ known.map Prod.fst := by
      intro hmem
      rw [List.map_append, List.nodup_append] at hnames
      exact hnames.2.2 p.1 hmem p.1 (by simp) rfl
    rw [List.foldl_cons, enter_of_not_mem hnew, ih (known ++ [p]) (by simpa using hnames)]
    simp

end Gathered

section Entries
variable {doc : Document} {entries : Entries} {policies policies' : List (String × String)}

lemma policyEntry_eq_ok_iff {e : Item × Item} {p : String × String} :
    policyEntry e = .ok p ↔ PolicyOf e p := by
  obtain ⟨k, v⟩ := e
  obtain ⟨name, expression⟩ := p
  rw [policyEntry, both_eq_ok_iff, judges_string.ok_iff, judges_string.ok_iff]
  rfl

lemma policyEntries_eq_ok_iff : policyEntries entries = .ok policies ↔
    List.Forall₂ PolicyOf entries policies := by
  induction entries generalizing policies with
  | nil => simp [policyEntries, eq_comm]
  | cons e es ih =>
    have hcons : policyEntries (e :: es) = .ok policies ↔
        ∃ p ps, both (policyEntry e) (policyEntries es) = .ok (p, ps) ∧ p :: ps = policies := by
      rw [policyEntries]
      split <;> simp_all
    simp only [hcons, both_eq_ok_iff, policyEntry_eq_ok_iff, ih, List.forall₂_cons_left_iff]
    constructor
    · rintro ⟨p, ps, ⟨he, hes⟩, rfl⟩
      exact ⟨p, ps, he, hes, rfl⟩
    · rintro ⟨p, ps, he, hes, rfl⟩
      exact ⟨p, ps, ⟨he, hes⟩, rfl⟩

lemma forall₂_policyPair (policies : List (String × String)) :
    List.Forall₂ PolicyOf (policies.map policyPair) policies := by
  induction policies with
  | nil => exact .nil
  | cons p rest ih => exact .cons ⟨.str p.1, .str p.2⟩ ih

/-- Strings of different names are the policies as they stand. -/
lemma policies_of_pairs (h : Section doc "policies" (policies.map policyPair))
    (hnames : (policies.map Prod.fst).Nodup) : Policies doc policies :=
  ⟨_, policies, h, forall₂_policyPair policies, gathered_of_nodup hnames⟩

lemma Policies.unique (h : Policies doc policies) (h' : Policies doc policies') :
    policies = policies' := by
  obtain ⟨entries, ps, hs, hread, rfl⟩ := h
  obtain ⟨entries', ps', hs', hread', rfl⟩ := h'
  obtain rfl := hs.unique hs'
  have hps := (policyEntries_eq_ok_iff.mpr hread).symm.trans (policyEntries_eq_ok_iff.mpr hread')
  rw [Except.ok.inj hps]

/-- Either all policies are readable, or the first that is not is found. -/
theorem firstRefused_cases (policies : List (String × String)) :
    ((∀ p ∈ policies, Readable p) ∧ (firstRefused policies).value = none) ∨
    ∃ before name expression after reason, policies = before ++ (name, expression) :: after ∧
      (∀ p ∈ before, Readable p) ∧ Expr.parse expression.toList = .error reason ∧
      (firstRefused policies).value = some (name, reason) := by
  induction policies with
  | nil => exact .inl ⟨nofun, rfl⟩
  | cons p rest ih =>
    obtain ⟨name, expression⟩ := p
    cases hp : Expr.parse expression.toList with
    | error reason =>
      exact .inr ⟨[], name, expression, rest, reason, rfl, nofun, hp,
        by simp [firstRefused, hp, Audited.quiet]⟩
    | ok e =>
      have hrest : (firstRefused ((name, expression) :: rest)).value =
          (firstRefused rest).value := by
        simp [firstRefused, hp]
      rw [hrest]
      obtain ⟨hall, hv⟩ | ⟨before, n, x, after, reason, rfl, hbefore, hx, hv⟩ := ih
      · exact .inl ⟨List.forall_mem_cons.mpr ⟨⟨e, hp⟩, hall⟩, hv⟩
      · exact .inr ⟨(name, expression) :: before, n, x, after, reason, rfl,
          List.forall_mem_cons.mpr ⟨⟨e, hp⟩, hbefore⟩, hx, hv⟩

lemma policiesSection_value (doc : Document) : (policiesSection doc).value =
    ofSection doc "policies"
      (fun entries => match policyEntries entries with
        | .error is => .error is
        | .ok ps => match (firstRefused (gathered ps)).value with
          | none => .ok (gathered ps)
          | some (name, r) => issue [.key "policies"] (.badPolicy name r))
      (issue [.key "policies"] .notMapping) := by
  unfold policiesSection ofSection
  rcases doc.section? "policies" with _ | _ | entries
  · rfl
  · rfl
  · cases hp : policyEntries entries with
    | error is => simp only [hp, Audited.quiet]
    | ok ps =>
      simp only [hp, Audited.andThen_value]
      cases (firstRefused (gathered ps)).value <;> rfl

/-- Once all policies are strings, only one that is not readable can be in the way. -/
lemma policiesSection_cases (h : Policies doc policies) :
    ((∀ p ∈ policies, Readable p) ∧ (policiesSection doc).value = .ok policies) ∨
    ∃ before name expression after reason, policies = before ++ (name, expression) :: after ∧
      (∀ p ∈ before, Readable p) ∧ Expr.parse expression.toList = .error reason ∧
      (policiesSection doc).value = issue [.key "policies"] (.badPolicy name reason) := by
  obtain ⟨entries, ps, hs, hread, rfl⟩ := h
  have hvalue := policiesSection_value doc
  simp only [hs.ofSection_eq, policyEntries_eq_ok_iff.mpr hread] at hvalue
  obtain ⟨hall, hv⟩ | ⟨before, name, expression, after, reason, hp, hbefore, hx, hv⟩ :=
    firstRefused_cases (gathered ps)
  · exact .inl ⟨hall, hvalue.trans (by simp only [hv])⟩
  · exact .inr ⟨before, name, expression, after, reason, hp, hbefore, hx,
      hvalue.trans (by simp only [hv])⟩

theorem policiesSection_eq_ok_iff : (policiesSection doc).value = .ok policies ↔
    Policies doc policies ∧ ∀ p ∈ policies, Readable p := by
  constructor
  · intro h
    obtain ⟨entries, hs, hread⟩ :=
      ofSection_eq_ok_iff.mp ((policiesSection_value doc).symm.trans h)
    cases hp : policyEntries entries with
    | error is =>
      rw [hp] at hread
      contradiction
    | ok ps =>
      have hpolicies : Policies doc (gathered ps) :=
        ⟨entries, ps, hs, policyEntries_eq_ok_iff.mp hp, rfl⟩
      obtain ⟨hall, hv⟩ | ⟨_, _, _, _, _, _, _, _, hv⟩ := policiesSection_cases hpolicies
      · obtain rfl := Except.ok.inj (hv.symm.trans h)
        exact ⟨hpolicies, hall⟩
      · rw [hv] at h
        contradiction
  · rintro ⟨hs, hall⟩
    obtain ⟨_, hv⟩ | ⟨before, name, expression, after, reason, rfl, _, hx, _⟩ :=
      policiesSection_cases hs
    · exact hv
    · obtain ⟨e, he⟩ := hall (name, expression) (by simp)
      rw [hx] at he
      contradiction

end Entries

/-- The settings that a document gives: what its sections are set to, and its policies in order. -/
structure Gives (doc : Document) (s : Settings) : Prop where
  logging : ∃ entries, Section doc "logging" entries ∧
    Field entries "level" "INFO" TextOf s.level ∧
    Field entries "json_output" false SwitchOf s.jsonLines
  labels : ∃ entries, Section doc "labels" entries ∧ Field entries "strict" false SwitchOf s.strict
  policies : Policies doc s.policies
  readable : ∀ p ∈ s.policies, Readable p

section Validate
variable {doc : Document} {policies : List (String × String)} {settings : Settings}

lemma validate_value (doc : Document) : (validate doc).value =
    (both (both (loggingSection doc) (labelsSection doc)) (policiesSection doc).value).map
      fun q => ⟨q.1.1.1, q.1.1.2, q.1.2, q.2⟩ := by
  rw [validate, Audited.andThen_value]
  cases both (both (loggingSection doc) (labelsSection doc)) (policiesSection doc).value <;> rfl

theorem validate_eq_ok_iff : (validate doc).value = .ok settings ↔ Gives doc settings := by
  have hparts : (validate doc).value = .ok settings ↔
      both (both (loggingSection doc) (labelsSection doc)) (policiesSection doc).value =
        .ok (((settings.level, settings.jsonLines), settings.strict), settings.policies) := by
    obtain ⟨level, jsonLines, strict, policies⟩ := settings
    rw [validate_value]
    cases both (both (loggingSection doc) (labelsSection doc)) (policiesSection doc).value with
    | error is => simp [Except.map]
    | ok q =>
      obtain ⟨⟨⟨_, _⟩, _⟩, _⟩ := q
      simp [Except.map, and_assoc]
  rw [hparts, both_eq_ok_iff, both_eq_ok_iff, loggingSection_eq_ok_iff, labelsSection_eq_ok_iff,
    policiesSection_eq_ok_iff]
  constructor
  · rintro ⟨⟨hlogging, hlabels⟩, hpolicies, hreadable⟩
    exact ⟨hlogging, hlabels, hpolicies, hreadable⟩
  · intro h
    exact ⟨⟨h.logging, h.labels⟩, h.policies, h.readable⟩

end Validate

section Load
variable {env : Environment} {path : String} {entries : Entries} {others : Nat → Entries}
  {doc : Document}

/-- Once a document is prepared, loading gives the settings that it gives. -/
lemma load_eq_ok_iff {source : Source} {settings : Settings}
    (h : prepare env path source = .ok doc) :
    (load env path source).value = .ok settings ↔ Gives doc settings := by
  rw [load_value_of_prepared h, ← validate_eq_ok_iff]
  cases (validate doc).value <;> simp [Except.mapError]

end Load

section Judge
variable {labels : LabelSet} {policies : List (String × String)}

/-- Only a level can be in the way of a log. -/
lemma exists_level_of_ofLevel {level : Level} {jsonLines : Bool} {c : Command.Crash}
    (h : Command.Log.ofLevel level jsonLines = .error c) : ∃ m, c = .level m := by
  unfold Command.Log.ofLevel at h
  split at h
  · contradiction
  · exact ⟨_, (Except.error.inj h).symm⟩

lemma exists_level_of_relog {front : Command.Front} {log : Command.Log} {settings : Settings}
    {c : Command.Crash} (h : Command.relog front log settings = .error c) :
    ∃ m, c = .level m := by
  unfold Command.relog at h
  split at h
  · contradiction
  · exact exists_level_of_ofLevel h

end Judge

end Clearance.Config
