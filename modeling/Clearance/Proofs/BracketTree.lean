import Clearance.Proofs.OpenScopes

/-! The tree of an accepted text by recursion over its brackets, and that the stack of scopes
builds the same one. -/
namespace Clearance

namespace Formula

/-- The labels directly in a scope, in written order. -/
def bare : Formula → List Label
  | nil => []
  | label l rest => l :: rest.bare
  | operator _ rest => rest.bare
  | scope _ rest => rest.bare

/-- The tree of a scope by the operators and the items in it. One item stands for itself, several
are grouped by the operator. A scope with both operators has no tree. -/
def assemble (ops : List Connective) (items : List Expr) : Option Expr :=
  if .and ∈ ops ∧ .or ∈ ops then none
  else match items, ops with
    | [t], _ => some t
    | first :: second :: rest, op :: _ => some (.group op first second rest)
    | _, _ => none

/-- The trees of the scopes in parentheses directly in a scope, in written order. -/
def subtrees? : Formula → Option (List Expr)
  | nil => some []
  | label _ rest => rest.subtrees?
  | operator _ rest => rest.subtrees?
  | scope inner rest => do
    let ts ← inner.subtrees?
    let t ← assemble inner.operators (ts ++ inner.bare.map .leaf)
    let us ← rest.subtrees?
    pure (t :: us)

/-- The tree of a formula that is a whole text: sub-scopes come before labels. -/
def tree? (f : Formula) : Option Expr := do
  let ts ← f.subtrees?
  assemble f.operators (ts ++ f.bare.map .leaf)

lemma tree?_eq_some_iff {f : Formula} {t : Expr} : f.tree? = some t ↔
    ∃ ts, f.subtrees? = some ts ∧ assemble f.operators (ts ++ f.bare.map .leaf) = some t :=
  Option.bind_eq_some_iff

lemma subtrees?_scope_eq_some_iff {inner rest : Formula} {us : List Expr} :
    (scope inner rest).subtrees? = some us ↔
      ∃ t ts, inner.tree? = some t ∧ rest.subtrees? = some ts ∧ us = t :: ts := by
  have h : (scope inner rest).subtrees? =
      inner.tree? >>= fun t => rest.subtrees? >>= fun ts => some (t :: ts) := by
    rw [tree?, bind_assoc]
    rfl
  rw [h]
  simp only [Option.bind_eq_bind, Option.bind_eq_some_iff, Option.some.injEq]
  constructor
  · rintro ⟨t, ht, ts, hts, rfl⟩
    exact ⟨t, ts, ht, hts, rfl⟩
  · rintro ⟨t, ts, ht, hts, rfl⟩
    exact ⟨t, ht, ts, hts, rfl⟩

end Formula

namespace Scope
variable {s s' : Scope Label} {ops : List Connective} {o : Option Token.Kind}

/-- Without an operator before, the first one written counts, and the two never meet. -/
lemma declares_none_iff :
    Declares ops none o ↔ ¬ (.and ∈ ops ∧ .or ∈ ops) ∧ o = ops.head?.map Connective.kind := by
  cases ops with
  | nil => simp [declares_nil_iff]
  | cons op ops =>
    constructor
    · intro h
      have hop := h.declares op (by simp)
      refine ⟨?_, hop⟩
      rintro ⟨hand, hor⟩
      have hsame := (h.declares _ hand).symm.trans (h.declares _ hor)
      exact absurd (Connective.kind_injective (Option.some.inj hsame)) (by simp)
    · rintro ⟨hmixed, rfl⟩
      refine ⟨by simp, ?_, by simp⟩
      intro p hp
      have hsame : p = op := by
        cases p <;> cases op <;> simp_all
      rw [hsame]
      rfl

lemma build_eq_ok_iff {t : Expr} (hops : Declares ops none s.operator) :
    s.build = .ok t ↔ Formula.assemble ops s.items = some t := by
  obtain ⟨hmixed, ho⟩ := declares_none_iff.mp hops
  unfold build Formula.assemble
  rw [if_neg hmixed, ho]
  cases s.items with
  | nil => cases ops <;> simp
  | cons first items =>
    cases items with
    | nil => cases ops <;> simp
    | cons second rest => cases ops <;> simp [connective_kind]

end Scope

namespace Formula

/-- What a scope is built to follows from what is read into it. -/
lemma build_eq_ok_iff_of_gather {f : Formula}
    (h : ∀ {s s' : Scope Label}, f.gather s = .ok s' ↔
      ∃ ts o, f.subtrees? = some ts ∧ Scope.Declares f.operators s.operator o ∧
        s' = ⟨s.nodes ++ ts, s.labels ++ f.bare, o⟩) (t : Expr) :
    f.build = .ok t ↔ f.tree? = some t := by
  rw [tree?_eq_some_iff, build, Refusal.bind_eq_ok_iff]
  constructor
  · rintro ⟨s, hg, hb⟩
    obtain ⟨ts, o, hts, ho, rfl⟩ := h.mp hg
    exact ⟨ts, hts, (Scope.build_eq_ok_iff ho).mp hb⟩
  · rintro ⟨ts, hts, ha⟩
    have hmixed : ¬ (.and ∈ f.operators ∧ .or ∈ f.operators) := by
      intro hm
      simp [assemble, hm] at ha
    have ho := Scope.declares_none_iff.mpr ⟨hmixed, rfl⟩
    exact ⟨_, h.mpr ⟨ts, _, hts, ho, rfl⟩, (Scope.build_eq_ok_iff ho).mpr ha⟩

/-- A formula is read into a scope if all scopes within it have trees and its operators agree with
each other and with the one declared before. -/
theorem gather_eq_ok_iff {f : Formula} {s s' : Scope Label} : f.gather s = .ok s' ↔
    ∃ ts o, f.subtrees? = some ts ∧ Scope.Declares f.operators s.operator o ∧
      s' = ⟨s.nodes ++ ts, s.labels ++ f.bare, o⟩ := by
  induction f generalizing s s' with
  | nil =>
    simp only [gather, subtrees?, bare, operators, Scope.declares_nil_iff, Except.ok.injEq]
    constructor
    · rintro rfl
      exact ⟨[], s.operator, rfl, rfl, by simp⟩
    · rintro ⟨_, _, h, rfl, rfl⟩
      obtain rfl := Option.some.inj h
      simp
  | label l rest ih =>
    rw [gather, ih]
    simp only [subtrees?, bare, operators, Scope.addLabel, List.append_assoc,
      List.singleton_append]
  | operator op rest ih =>
    simp only [gather, Refusal.bind_eq_ok_iff, Scope.setOperator_eq_ok_iff, ih, subtrees?, bare,
      operators, Scope.declares_cons_iff]
    constructor
    · rintro ⟨_, ⟨rfl, hold⟩, ts, o, hts, ho, rfl⟩
      exact ⟨ts, o, hts, ⟨hold, ho⟩, rfl⟩
    · rintro ⟨ts, o, hts, ⟨hold, ho⟩, rfl⟩
      exact ⟨_, ⟨rfl, hold⟩, ts, o, hts, ho, rfl⟩
  | scope inner rest ihInner ihRest =>
    have hin : ∀ t, inner.build = .ok t ↔ inner.tree? = some t := build_eq_ok_iff_of_gather ihInner
    simp only [gather, subtrees?_scope_eq_some_iff, bare, operators]
    constructor
    · intro h
      obtain ⟨inside, hg, h⟩ := Refusal.bind_eq_ok_iff.mp h
      obtain ⟨t, hb, h⟩ := Refusal.bind_eq_ok_iff.mp h
      have ht := (hin t).mp (Refusal.bind_eq_ok_iff.mpr ⟨inside, hg, hb⟩)
      obtain ⟨ts, o, hts, ho, rfl⟩ := ihRest.mp h
      exact ⟨t :: ts, o, ⟨t, ts, ht, hts, rfl⟩, ho, by simp [Scope.addNode]⟩
    · rintro ⟨_, o, ⟨t, ts, ht, hts, rfl⟩, ho, rfl⟩
      obtain ⟨inside, hg, hb⟩ := Refusal.bind_eq_ok_iff.mp ((hin t).mpr ht)
      have hrest : rest.gather (s.addNode t) = .ok ⟨s.nodes ++ t :: ts, s.labels ++ rest.bare, o⟩ :=
        ihRest.mpr ⟨ts, o, hts, ho, by simp [Scope.addNode]⟩
      refine Refusal.bind_eq_ok_iff.mpr ⟨inside, hg, ?_⟩
      exact Refusal.bind_eq_ok_iff.mpr ⟨t, hb, hrest⟩

/-- The stack of scopes and the recursion over brackets build the same tree, if any. -/
theorem build_eq_ok_iff {f : Formula} {e : Expr} : f.build = .ok e ↔ f.tree? = some e :=
  build_eq_ok_iff_of_gather gather_eq_ok_iff e

lemma leaves_of_tree? {f : Formula} {e : Expr} (h : f.tree? = some e) : e.leaves.Perm f.labels :=
  leaves_of_build (build_eq_ok_iff.mpr h)

end Formula

namespace Expr

/-- A text is accepted if it has brackets and the recursion over them gives a tree. -/
theorem parse_eq_ok_iff {source : Text} {e : Expr} : Expr.parse source = .ok e ↔
    ∃ f : Formula, f.tokens = Token.list source ∧ f.tree? = some e := by
  constructor
  · intro h
    obtain ⟨f, hf⟩ := Formula.exists_of_parse h
    rw [parse_of_tokens hf] at h
    exact ⟨f, hf, Formula.build_eq_ok_iff.mp h⟩
  · rintro ⟨f, hf, ht⟩
    rw [parse_of_tokens hf]
    exact Formula.build_eq_ok_iff.mpr ht

/-- An accepted text has one bracket structure, and its tree is what the recursion over that gives:
in each scope the trees of its sub-scopes and then its labels, as written. No label is lost or
doubled on the way. -/
theorem tree_of_parse {source : Text} {e : Expr} (h : Expr.parse source = .ok e) :
    ∃ f : Formula, (∀ g : Formula, g.tokens = Token.list source ↔ g = f) ∧ f.tree? = some e ∧
      e.leaves.Perm ((Token.list source).filterMap Token.label?) := by
  obtain ⟨f, hf, ht⟩ := parse_eq_ok_iff.mp h
  refine ⟨f, ?_, ht, ?_⟩
  · intro g
    constructor
    · exact fun hg => Formula.tokens_injective (hg.trans hf.symm)
    · rintro rfl
      exact hf
  · rw [← hf, Formula.filterMap_tokens]
    exact Formula.leaves_of_tree? ht

/-- A label in two pairs of parentheses counts as a sub-scope, so it comes before the labels `c` and
`b`, and so does `y` before `x`. -/
theorem tree_of_parse_lone_labels :
    ∃ f : Formula, f.tokens = Token.list "c & ((a)) & (x | (y) | \"z w\") & b".toList ∧
      f.tree? = some (.group .and (.leaf ['a'])
        (.group .or (.leaf ['y']) (.leaf ['x']) [.leaf ['z', ' ', 'w']])
        [.leaf ['c'], .leaf ['b']]) := by
  have h : Expr.parse "c & ((a)) & (x | (y) | \"z w\") & b".toList =
      .ok (.group .and (.leaf ['a'])
        (.group .or (.leaf ['y']) (.leaf ['x']) [.leaf ['z', ' ', 'w']])
        [.leaf ['c'], .leaf ['b']]) := by cbv
  obtain ⟨f, hf, ht, _⟩ := tree_of_parse h
  exact ⟨f, (hf f).mpr rfl, ht⟩

end Expr

end Clearance
