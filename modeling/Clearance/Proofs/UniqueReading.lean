import Clearance.Proofs.Brackets
import Clearance.Proofs.RoundTrip

/-! A written text is that of one expression only. Parsing forgets how leaves and groups were mixed,
but the brackets of the text show them in the order in which they were written. -/
namespace Clearance.Expr

/-- An item is a label or a pair of parentheses, so it is clear where it ends. -/
lemma item_append_injective {e e' : Expr} {f f' : Formula}
    (h : e.item.append f = e'.item.append f') : e.item = e'.item ∧ f = f' := by
  cases e with
  | leaf l =>
    cases e' with
    | leaf l' =>
      obtain ⟨hl, hf⟩ := Formula.label.inj h
      exact ⟨by rw [hl], hf⟩
    | group op first second rest => contradiction
  | group op first second rest =>
    cases e' with
    | leaf l' => contradiction
    | group op' first' second' rest' =>
      obtain ⟨hin, hf⟩ := Formula.scope.inj h
      exact ⟨congrArg (Formula.scope · .nil) hin, hf⟩

/-- The item of the expression is that of no other. -/
def Told (e : Expr) : Prop := ∀ e', e.item = e'.item → e = e'

lemma items_injective {op op' : Connective} {es es' : List Expr} (hes : ∀ e ∈ es, Told e)
    (h : items op es = items op' es') : es = es' := by
  induction es generalizing es' with
  | nil =>
    cases es' with
    | nil => rfl
    | cons e' es' => contradiction
  | cons e es ih =>
    obtain ⟨hfirst, hrest⟩ := List.forall_mem_cons.mp hes
    cases es' with
    | nil => contradiction
    | cons e' es' =>
      obtain ⟨hitem, hmore⟩ := item_append_injective (Formula.operator.inj h).2
      rw [hfirst e' hitem, ih hrest hmore]

/-- What is written in a group, without the parentheses around it, determines the group. -/
lemma group_injective {op op' : Connective} {s t s' t' : Expr} {rest rest' : List Expr}
    (hes : ∀ e ∈ s :: t :: rest, Told e)
    (h : s.item.append (items op (t :: rest)) = s'.item.append (items op' (t' :: rest'))) :
    Tree.group op s t rest = .group op' s' t' rest' := by
  obtain ⟨hfirst, hmore⟩ := List.forall_mem_cons.mp hes
  obtain ⟨hitem, hitems⟩ := item_append_injective h
  obtain ⟨rfl, rfl⟩ := List.cons.inj (items_injective hmore hitems)
  rw [hfirst s' hitem, (Formula.operator.inj hitems).1]

theorem told (e : Expr) : Told e := by
  induction e using Tree.induction with
  | leaf l =>
    intro e' h
    cases e' with
    | leaf l' => exact congrArg Tree.leaf (Formula.label.inj h).1
    | group op first second rest => contradiction
  | group op first second rest ih =>
    intro e' h
    cases e' with
    | leaf l' => contradiction
    | group op' first' second' rest' => exact group_injective ih (Formula.scope.inj h).1

/-- A label by itself is not the beginning of a group, since an operator would follow it. -/
lemma formula_leaf_ne_group (l : Label) (op : Connective) (s t : Expr) (rest : List Expr) :
    formula (.leaf l) ≠ formula (.group op s t rest) := by
  intro h
  obtain ⟨_, hrest⟩ := item_append_injective (e := .leaf l) (f := .nil) h
  contradiction

theorem formula_injective : Function.Injective formula := by
  intro e e' h
  cases e with
  | leaf l =>
    cases e' with
    | leaf l' => exact congrArg Tree.leaf (Formula.label.inj h).1
    | group op first second rest => exact absurd h (formula_leaf_ne_group l op first second rest)
  | group op first second rest =>
    cases e' with
    | leaf l' => exact absurd h.symm (formula_leaf_ne_group l' op first second rest)
    | group op' first' second' rest' => exact group_injective (fun e _ => told e) h

/-- Well escaped expressions that are written alike are the same, child by child. -/
theorem render_eq_iff {e e' : Expr} (he : e.WellEscaped) (he' : e'.WellEscaped) :
    e.draft.render = .ok e.render ∧ (e.draft.render = e'.draft.render ↔ e = e') := by
  simp only [render_eq_text, Draft.render_draft, Except.ok.injEq, true_and]
  constructor
  · intro h
    apply formula_injective
    apply Formula.tokens_injective
    rw [← list_text he, ← list_text he', h]
  · rintro rfl
    rfl

/-- A group and a label that holds an operator change places: the texts are parsed to one tree, and
still they differ. -/
theorem render_eq_iff_reordered :
    let s : Expr := .leaf ['a', ' ', '&', ' ', 'b']
    let t : Expr := .group .or (.leaf ['a']) (.leaf ['\\', '"']) []
    let e : Expr := .group .and s t []
    let e' : Expr := .group .and t s []
    e.WellEscaped ∧ e'.WellEscaped ∧ Tree.canon e = Tree.canon e' ∧
      e.draft.render ≠ e'.draft.render := by
  intro s t e e'
  have he : e.WellEscaped := by unfold WellEscaped; decide
  have he' : e'.WellEscaped := by unfold WellEscaped; decide
  obtain ⟨_, hsame⟩ := render_eq_iff he he'
  exact ⟨he, he', by decide, fun h => absurd (hsame.mp h) (by decide)⟩

end Clearance.Expr
