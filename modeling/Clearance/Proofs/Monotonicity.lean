import Clearance.Proofs.Access
import Clearance.Proofs.Blame

/-! More credentials never take access away, and what is wrong with an expression is said whatever
they are. -/
namespace Clearance

/-- A group that is true stays true when more of its children become true. -/
lemma Connective.join_mono {α : Type} (op : Connective) {f g : α → Bool} {as : List α}
    (h : ∀ a ∈ as, f a = true → g a = true) (hf : op.join (as.map f) = true) :
    op.join (as.map g) = true := by
  cases op with
  | and =>
    simp only [join, List.all_map, List.all_eq_true, Function.comp_apply, id_eq] at hf ⊢
    exact fun a ha => h a ha (hf a ha)
  | or =>
    simp only [join, List.any_map, List.any_eq_true, Function.comp_apply, id_eq] at hf ⊢
    obtain ⟨a, ha, hfa⟩ := hf
    exact ⟨a, ha, h a ha hfa⟩

namespace Expr

/-- Holding more labels keeps an expression true. -/
theorem truth_mono {held more : Label → Bool} (h : ∀ l, held l = true → more l = true)
    {e : Expr} (he : e.truth held = true) : e.truth more = true := by
  induction e using Tree.induction with
  | leaf l =>
    rw [truth_leaf] at he ⊢
    exact h l he
  | group op first second rest ih =>
    rw [truth_group] at he ⊢
    exact op.join_mono ih he

/-- What is wrong with an expression is never a blank item among the credentials. -/
lemma parse_ne_emptyLabel (source : Text) (index : Nat) (item : Text) :
    Expr.parse source ≠ .error (.emptyLabel index item) := by
  intro h
  have hread : Nesting.start.read (.start source) =
      (.error (.emptyLabel index item), (Nesting.start.read (.start source)).2) := Prod.ext h rfl
  obtain ⟨before, p, after, hs, hrefused, _⟩ | ⟨hshort, _⟩ := Nesting.read_eq_error_iff.mp hread
  · obtain ⟨_, _, hblames⟩ := (Nesting.refused_iff hs).mp hrefused
    cases hblames
  · obtain ⟨_, hfalls⟩ := Nesting.unfinished_iff.mp hshort
    cases hfalls

end Expr

namespace Credentials

/-- Credentials that list more items hold more labels. -/
lemma holds_of_subset {a b : Text} (h : items a ⊆ items b) {l : Label}
    (hl : (labels a).holds l = true) : (labels b).holds l = true := by
  simp only [labels, LabelSet.holds, List.mem_eraseDups, decide_eq_true_eq, List.mem_map] at hl ⊢
  obtain ⟨item, hi, rfl⟩ := hl
  exact ⟨item, h hi, rfl⟩

end Credentials

namespace Check

lemma byHolding_value (held : Label → Bool) (source : Text) :
    (byHolding held source).value = (Expr.parse source).map (Expr.truth held) := by
  cases h : Expr.parse source with
  | error r => simp [byHolding, Expr.parseAudited, h, Audited.andThen, Except.map]
  | ok e => simp [byHolding_of_parse h, Except.map]

lemma byHolding_eq_error_iff {held : Label → Bool} {source : Text} {r : Refusal} :
    (byHolding held source).value = .error r ↔ Expr.parse source = .error r := by
  rw [byHolding_value]
  cases Expr.parse source <;> simp [Except.map]

/-- Access is not lost by holding more labels. -/
lemma byHolding_mono {held more : Label → Bool} (h : ∀ l, held l = true → more l = true)
    {source : Text} (ht : (byHolding held source).value = .ok true) :
    (byHolding more source).value = .ok true := by
  rw [byHolding_value] at ht ⊢
  cases hp : Expr.parse source with
  | error r => simp [hp, Except.map] at ht
  | ok e =>
    rw [hp] at ht
    exact congrArg Except.ok (Expr.truth_mono h (Except.ok.inj ht))

lemma byCredentials_default (source credentials : Text) :
    byCredentials false source credentials =
      byHolding (Credentials.labels credentials).holds source := rfl

lemma byCredentials_of_not_blank {credentials : Text}
    (h : ∀ item ∈ Credentials.items credentials, ¬ Credentials.Blank item) (source : Text) :
    byCredentials true source credentials = byCredentials false source credentials := by
  rw [byCredentials_default, byCredentials, Credentials.read_of_not_blank h]

/-- Nothing is recorded of the expression, so it is not read. -/
lemma byCredentials_of_blank {credentials : Text}
    (h : ∃ item ∈ Credentials.items credentials, Credentials.Blank item) :
    ∃ index item, ∀ source,
      byCredentials true source credentials = .quiet (.error (.emptyLabel index item)) := by
  obtain ⟨index, item, hr⟩ := Credentials.read_of_blank h
  exact ⟨index, item, fun source => by rw [byCredentials, hr]⟩

lemma byCredentials_emptyLabel_iff {source credentials : Text} :
    (∃ index item,
      (byCredentials true source credentials).value = .error (.emptyLabel index item)) ↔
      ∃ item ∈ Credentials.items credentials, Credentials.Blank item := by
  constructor
  · rintro ⟨index, item, h⟩
    by_contra hnone
    have hall : ∀ item ∈ Credentials.items credentials, ¬ Credentials.Blank item :=
      fun item hi hblank => hnone ⟨item, hi, hblank⟩
    rw [byCredentials_of_not_blank hall, byCredentials_default, byHolding_eq_error_iff] at h
    exact Expr.parse_ne_emptyLabel source index item h
  · intro h
    obtain ⟨index, item, hall⟩ := byCredentials_of_blank h
    exact ⟨index, item, by rw [hall source]; rfl⟩

/-- Listing more items never takes access away. -/
lemma byCredentials_of_subset {source a b : Text} (h : Credentials.items a ⊆ Credentials.items b)
    (ha : (byCredentials false source a).value = .ok true) :
    (byCredentials false source b).value = .ok true :=
  byHolding_mono (fun _ => Credentials.holds_of_subset h) ha

/-- Credentials decide access and nothing else. Without strictness a check is refused for what is
wrong with the expression only, and more credentials on either side never take access away. When
strict, a blank item is refused whatever the expression is, before it is read, and nothing else
changes. -/
theorem byCredentials_monotone (source a b : Text) :
    (∀ r, (byCredentials false source a).value = .error r ↔ Expr.parse source = .error r) ∧
    ((byCredentials false source a).value = .ok true →
      (byCredentials false source (a ++ ',' :: b)).value = .ok true ∧
      (byCredentials false source (b ++ ',' :: a)).value = .ok true) ∧
    ((∃ index item, (byCredentials true source a).value = .error (.emptyLabel index item)) ↔
      ∃ item ∈ Credentials.items a, Credentials.Blank item) ∧
    ((∃ item ∈ Credentials.items a, Credentials.Blank item) → ∃ index item, ∀ other,
      byCredentials true other a = .quiet (.error (.emptyLabel index item))) ∧
    ((∀ item ∈ Credentials.items a, ¬ Credentials.Blank item) →
      byCredentials true source a = byCredentials false source a) := by
  refine ⟨fun r => byHolding_eq_error_iff, ?_, byCredentials_emptyLabel_iff,
    byCredentials_of_blank, fun h => byCredentials_of_not_blank h source⟩
  intro h
  have hbefore : Credentials.items a ⊆ Credentials.items (a ++ ',' :: b) := by
    rw [Credentials.items_append]
    exact List.subset_append_left _ _
  have hafter : Credentials.items a ⊆ Credentials.items (b ++ ',' :: a) := by
    rw [Credentials.items_append]
    exact List.subset_append_right _ _
  exact ⟨byCredentials_of_subset hbefore h, byCredentials_of_subset hafter h⟩

/-- The tabulator at the end stands for the empty label, unless it is refused before a source that
has an open parenthesis. -/
theorem byCredentials_monotone_blank :
    let source := "(x | \"\") & \"z w\"".toList
    let a := " \"z w\",\t".toList
    ((byCredentials false source a).value = .ok true ∧
      (byCredentials false source (a ++ ',' :: ['y'])).value = .ok true ∧
      (byCredentials false source ('y' :: ',' :: a)).value = .ok true) ∧
    (Credentials.Blank ['\t'] ∧
      ∃ index item,
        byCredentials true ['(', 'x'] a = .quiet (.error (.emptyLabel index item))) ∧
    (¬ Credentials.Blank ['z'] ∧
      byCredentials true source ['z'] = byCredentials false source ['z']) := by
  have hparse : Expr.parse "(x | \"\") & \"z w\"".toList = .ok (.group .and
      (.group .or (.leaf ['x']) (.leaf []) []) (.leaf ['z', ' ', 'w']) []) := by cbv
  intro source a
  have htrue : (byCredentials false source a).value = .ok true := by
    rw [byCredentials_default, byHolding_value, hparse]
    decide
  have hblank : Credentials.Blank ['\t'] := by decide
  have hplain : ¬ Credentials.Blank ['z'] := by decide
  have hitem : ['\t'] ∈ Credentials.items a := by decide
  obtain ⟨_, hgrant, _, hstrict, _⟩ := byCredentials_monotone source a ['y']
  obtain ⟨_, _, _, _, hsame⟩ := byCredentials_monotone source ['z'] []
  obtain ⟨index, item, hrefused⟩ := hstrict ⟨_, hitem, hblank⟩
  refine ⟨⟨htrue, hgrant htrue⟩, ⟨hblank, index, item, hrefused _⟩, hplain, hsame ?_⟩
  intro item hi
  obtain rfl := List.mem_singleton.mp (show item ∈ [['z']] from hi)
  exact hplain

end Check

end Clearance
