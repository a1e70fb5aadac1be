import Clearance.Proofs.OpenScopes
import Clearance.Proofs.Truth

/-! What a text means as it is written, and that its tree means the same. -/
namespace Clearance

/-- Which labels a mapping grants: those it maps to something that counts as true. -/
def Label.granted (mapping : Label → Option Value) (l : Label) : Bool :=
  (mapping l).any Value.truthy

namespace Formula

/-- The value of a scope by the operators and the values of the items in it. One item stands for
itself; several are joined by the one operator that all of them share. -/
def combine : List Connective → List Bool → Option Bool
  | _, [v] => some v
  | op :: ops, v :: w :: vs => if ∀ o ∈ ops, o = op then some (op.join (v :: w :: vs)) else none
  | _, _ => none

/-- The values of the items directly in a scope, in written order. -/
def values? (held : Label → Bool) : Formula → Option (List Bool)
  | nil => some []
  | label l rest => do
    let vs ← rest.values? held
    pure (held l :: vs)
  | operator _ rest => rest.values? held
  | scope inner rest => do
    let ws ← inner.values? held
    let w ← combine inner.operators ws
    let vs ← rest.values? held
    pure (w :: vs)

/-- The value of a formula that is a whole text. -/
def value? (held : Label → Bool) (f : Formula) : Option Bool := do
  let vs ← f.values? held
  combine f.operators vs

end Formula

namespace Scope
variable {s s' : Scope Label}

/-- Whether a scope is built or refused, and with which value, does not depend on the order in
which its items were collected. -/
lemma combine_of_build {t : Expr} (hb : s.build = .ok t) {held : Label → Bool}
    {ops : List Connective} {vs : List Bool}
    (hvalues : (s.items.map (Expr.truth held)).Perm vs)
    (hops : ∀ op ∈ ops, s.operator = some op.kind) (hnone : ops = [] → s.operator = none) :
    Formula.combine ops vs = some (t.truth held) := by
  unfold build at hb
  split at hb
  · next u _ hi =>
    obtain rfl := Except.ok.inj hb
    rw [hi] at hvalues
    obtain rfl := List.perm_singleton.mp hvalues.symm
    cases ops <;> rfl
  · next first second rest kind hi hk =>
    obtain rfl := Except.ok.inj hb
    rw [hi] at hvalues
    obtain ⟨v, w, ws, rfl⟩ : ∃ v w ws, vs = v :: w :: ws := by
      have hl := hvalues.length_eq
      match vs, hl with
      | v :: w :: ws, _ => exact ⟨v, w, ws, rfl⟩
    cases ops with
    | nil =>
      rw [hnone rfl] at hk
      contradiction
    | cons op ops =>
      have hop : kind = op.kind := Option.some.inj (hk.symm.trans (hops op (by simp)))
      have hall : ∀ o ∈ ops, o = op := by
        intro o ho
        have h := hops o (by simp [ho])
        exact Connective.kind_injective (Option.some.inj (h.symm.trans (hk.trans (hop ▸ rfl))))
      rw [Formula.combine, if_pos hall, Expr.truth_group, hop, connective_kind,
        op.join_perm hvalues]
  · contradiction

end Scope

namespace Formula

lemma Reads.combine_eq {f : Formula} {s : Scope Label} (hr : Reads f .empty s) {t : Expr}
    (hb : s.build = .ok t) {held : Label → Bool} {vs : List Bool}
    (hvalues : (s.items.map (Expr.truth held)).Perm vs) :
    combine f.operators vs = some (t.truth held) := by
  obtain ⟨_, hops, hnone⟩ := hr.operator_eq
  exact Scope.combine_of_build hb hvalues hops hnone

/-- The items of a scope are worth what is written there, though not in the written order. -/
theorem Reads.exists_values? (held : Label → Bool) {f : Formula} {s s' : Scope Label}
    (h : Reads f s s') :
    ∃ vs, f.values? held = some vs ∧
      (s'.items.map (Expr.truth held)).Perm (s.items.map (Expr.truth held) ++ vs) := by
  induction h with
  | nil => exact ⟨[], rfl, by simp⟩
  | @label l _ _ _ _ ih =>
    obtain ⟨vs, hv, hp⟩ := ih
    refine ⟨held l :: vs, by simp [values?, hv], ?_⟩
    simpa using hp
  | operator hs _ ih =>
    obtain ⟨vs, hv, hp⟩ := ih
    exact ⟨vs, hv, (Scope.of_setOperator hs).1 ▸ hp⟩
  | @scope _ _ s _ _ t within hb _ ihInner ihRest =>
    obtain ⟨ws, hw, hpw⟩ := ihInner
    obtain ⟨vs, hv, hpv⟩ := ihRest
    have hc := within.combine_eq hb (by simpa using hpw)
    refine ⟨Expr.truth held t :: vs, by simp [values?, hw, hc, hv], ?_⟩
    have hnode := ((Scope.items_addNode_perm s t).map (Expr.truth held)).append_right vs
    simpa using hpv.trans hnode

theorem value?_of_build (held : Label → Bool) {f : Formula} {e : Expr} (h : f.build = .ok e) :
    f.value? held = some (e.truth held) := by
  obtain ⟨s, hr, hb⟩ := exists_reads_of_build h
  obtain ⟨vs, hv, hp⟩ := hr.exists_values? held
  rw [value?, hv]
  exact hr.combine_eq hb (by simpa using hp)

end Formula

/-- An accepted text has a formula, and whatever its redundant parentheses and operators, its tree
is evaluated to what the formula says under each mapping of labels. -/
theorem Expr.evaluate_parse {source : Text} {e : Expr} (h : Expr.parse source = .ok e)
    (mapping : Label → Option Value) :
    (e.draft.evaluate (Label.granted mapping)).outcome =
        .ok (e.evaluate (Label.granted mapping)) ∧
      (∃ f : Formula, f.tokens = Token.list source) ∧
      ∀ f : Formula, f.tokens = Token.list source →
        f.value? (Label.granted mapping) = some (e.evaluate (Label.granted mapping)) := by
  refine ⟨?_, Formula.exists_of_parse h, ?_⟩
  · rw [Draft.outcome_evaluate_draft, Expr.evaluate_eq_truth]
  · intro f hf
    rw [Expr.evaluate_eq_truth]
    apply Formula.value?_of_build
    rw [← Expr.parse_of_tokens hf]
    exact h

/-- Operators in front, at the end and in a row, a label in parentheses, and mapped values of
which one is zero. -/
theorem Expr.evaluate_parse_redundant :
    Expr.parse "& (b | (c)) & & a &".toList = .ok (.group .and
        (.group .or (.leaf ['c']) (.leaf ['b']) []) (.leaf ['a']) []) ∧
      ∀ f : Formula, f.tokens = Token.list "& (b | (c)) & & a &".toList →
        f.value? (Label.granted fun l =>
          if l = ['a'] then some (.str "0") else if l = ['b'] then some (.int 0) else none) =
          some false := by
  have hp : Expr.parse "& (b | (c)) & & a &".toList = .ok (.group .and
      (.group .or (.leaf ['c']) (.leaf ['b']) []) (.leaf ['a']) []) := by cbv
  refine ⟨hp, ?_⟩
  intro f hf
  obtain ⟨_, _, hv⟩ := Expr.evaluate_parse hp fun l =>
    if l = ['a'] then some (.str "0") else if l = ['b'] then some (.int 0) else none
  rw [hv f hf, Expr.evaluate_eq_truth]
  decide

end Clearance
