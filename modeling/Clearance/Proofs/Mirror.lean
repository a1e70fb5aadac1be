import Clearance.Proofs.FirstRefused
import Clearance.Proofs.Truth

/-! Images of expressions by recursion over the tree. The groups that a survey has recorded are put
together to the same, each from the images that were finished before it. -/
namespace Clearance

namespace Value

lemma ofLabel_injective {l l' : Label} (h : ofLabel l = ofLabel l') : l = l' := by
  simpa [ofLabel, String.ofList_inj] using h

lemma ofGroup_injective {op op' : Connective} {vs vs' : List Value}
    (h : ofGroup op vs = ofGroup op' vs') : op = op' ∧ vs = vs' := by
  simp only [ofGroup, map.injEq, List.cons.injEq, Prod.mk.injEq, list.injEq, str.injEq] at h
  obtain ⟨⟨_, hop⟩, ⟨_, hvs⟩, _⟩ := h
  refine ⟨?_, hvs⟩
  revert hop
  cases op <;> cases op' <;> decide

lemma ofLabel_ne_ofGroup (l : Label) (op : Connective) (vs : List Value) :
    ofLabel l ≠ ofGroup op vs := by
  simp [ofLabel, ofGroup]

end Value

namespace Draft

mutual
/-- The image of a draft by recursion. A value that is no node stands for itself. -/
def mirror : Draft → Value
  | .leaf (.label l) => .ofLabel l
  | .leaf (.foreign v) => v
  | .group op first second rest => .ofGroup op (mirror first :: mirror second :: mirrors rest)

def mirrors : List Draft → List Value
  | [] => []
  | t :: ts => mirror t :: mirrors ts
end

@[simp] theorem mirrors_eq (ts : List Draft) : mirrors ts = ts.map mirror := by
  induction ts with
  | nil => rfl
  | cons t ts ih => simp [mirrors, ih]

@[simp] theorem mirror_label (l : Label) : mirror (.leaf (.label l)) = .ofLabel l := by rw [mirror]

@[simp] theorem mirror_group (op : Connective) (s t : Draft) (rest : List Draft) :
    mirror (.group op s t rest) = .ofGroup op ((s :: t :: rest).map mirror) := by
  simp [mirror]

/-- The image of a group that waits to be surveyed. -/
def awaited (g : Connective × List Draft) : Value := .ofGroup g.1 (g.2.map mirror)

lemma exists_of_slots_cons {t : Draft} {ts : List Draft} {found : List Slot}
    (h : slots (t :: ts) = .ok found) :
    ∃ s more, slot t = .ok s ∧ slots ts = .ok more ∧ found = s :: more := by
  rw [slots] at h
  cases ht : slot t with
  | error v =>
    rw [ht] at h
    contradiction
  | ok s =>
    cases hts : slots ts with
    | error v =>
      rw [ht, hts] at h
      contradiction
    | ok more =>
      rw [ht, hts] at h
      exact ⟨s, more, rfl, rfl, (Except.ok.inj h).symm⟩

/-- The groups among some children are finished from left to right, so the last of them lies on top
and is taken first. -/
lemma fill_slots {ts : List Draft} {found : List Slot} (h : slots ts = .ok found)
    (finished : List Value) : Record.fill found ((groups ts).reverse.map awaited ++ finished) =
      (ts.map mirror, finished) := by
  induction ts generalizing found finished with
  | nil =>
    obtain rfl := Except.ok.inj h
    rfl
  | cons t ts ih =>
    obtain ⟨s, more, ht, hts, rfl⟩ := exists_of_slots_cons h
    match t with
    | .leaf (.label l) =>
      obtain rfl := Except.ok.inj ht
      rw [groups, Record.fill, ih hts, List.map_cons, mirror_label]
    | .leaf (.foreign v) => contradiction
    | .group op first second rest =>
      obtain rfl := Except.ok.inj ht
      have hfill := ih hts (awaited (op, first :: second :: rest) :: finished)
      rw [groups, List.reverse_cons, List.map_append, List.append_assoc, List.map_singleton,
        List.singleton_append, Record.fill, hfill, List.map_cons, mirror_group]
      rfl

/-- What is made of the records of a survey is made of the images of the groups that were to be
surveyed. The group surveyed last is finished first. -/
lemma assemble_survey {todo : List (Connective × List Draft)} {records out : List Record}
    (h : survey todo records = .ok out) (finished : List Value) :
    assemble out finished = assemble records (todo.map awaited ++ finished) := by
  fun_induction survey todo records generalizing finished with
  | case1 records =>
    obtain rfl := Except.ok.inj h
    rfl
  | case2 => contradiction
  | case3 records op children todo found hslots ih =>
    rw [ih h, List.map_append, List.append_assoc, assemble, fill_slots hslots]
    rfl

/-- The image of a draft by recursion, unless a survey comes upon a value that is no node. -/
theorem image_of_surveyed_eq_nil {t : Draft} (h : surveyed t = []) : image t = .ok t.mirror := by
  match t with
  | .leaf (.label l) => rw [image, mirror_label]
  | .leaf (.foreign v) => simp at h
  | .group op first second rest =>
    have hrefused := refused?_survey [(op, first :: second :: rest)] []
    rw [surveyed_group] at h
    rw [List.flatMap_singleton, h] at hrefused
    cases hs : survey [(op, first :: second :: rest)] [] with
    | error v =>
      rw [hs] at hrefused
      contradiction
    | ok records =>
      rw [image, hs, mirror_group]
      show Except.ok ((assemble records []).headD .null) = _
      rw [assemble_survey hs]
      rfl

end Draft

namespace Expr

lemma image_draft (e : Expr) : e.draft.image = .ok e.draft.mirror := by
  apply Draft.image_of_surveyed_eq_nil
  apply List.eq_nil_iff_forall_not_mem.mpr
  intro v hv
  rw [Draft.mem_surveyed_iff, leaves_draft] at hv
  simp at hv

lemma image_eq_mirror (e : Expr) : e.image = e.draft.mirror := by rw [image, image_draft]

lemma image_leaf (l : Label) : image (.leaf l) = .ofLabel l := by
  rw [image_eq_mirror, draft_leaf, Draft.mirror_label]

lemma image_group (op : Connective) (s t : Expr) (rest : List Expr) :
    image (.group op s t rest) = .ofGroup op ((s :: t :: rest).map image) := by
  rw [image_eq_mirror, draft_group, Draft.mirror_group, ← List.map_cons, ← List.map_cons,
    List.map_map, funext image_eq_mirror]
  rfl

/-- Children with the same images are the same if that can be told of each of them. -/
lemma eq_of_map_image_eq {es es' : List Expr}
    (h : ∀ e ∈ es, ∀ e' : Expr, e.image = e'.image → e = e') (hmap : es.map image = es'.map image) :
    es = es' := by
  induction es generalizing es' with
  | nil => exact (List.map_eq_nil_iff.mp hmap.symm).symm
  | cons e es ih =>
    obtain ⟨hfirst, hrest⟩ := List.forall_mem_cons.mp h
    obtain ⟨e', es', rfl, hhead, htail⟩ := List.map_eq_cons_iff.mp hmap.symm
    rw [hfirst e' hhead.symm, ih hrest htail.symm]

theorem image_injective : Function.Injective image := by
  intro e
  induction e using Tree.induction with
  | leaf l =>
    intro e' h
    cases e' with
    | leaf l' =>
      rw [image_leaf, image_leaf] at h
      rw [Value.ofLabel_injective h]
    | group op first second rest =>
      rw [image_leaf, image_group] at h
      exact absurd h (Value.ofLabel_ne_ofGroup _ _ _)
  | group op first second rest ih =>
    intro e' h
    cases e' with
    | leaf l' =>
      rw [image_leaf, image_group] at h
      exact absurd h.symm (Value.ofLabel_ne_ofGroup _ _ _)
    | group op' first' second' rest' =>
      rw [image_group, image_group] at h
      obtain ⟨rfl, hmap⟩ := Value.ofGroup_injective h
      have hchildren := eq_of_map_image_eq (fun e he e' => @ih e he e') hmap
      obtain ⟨rfl, htail⟩ := List.cons.inj hchildren
      obtain ⟨rfl, rfl⟩ := List.cons.inj htail
      rfl

end Expr

namespace Draft

/-- Every expression has an image, that of a group made of the images of its children in order, and
expressions with the same image are the same. A draft has none if and only if some value in it is no
node, and then it is refused for the first that a survey comes upon. -/
theorem image_structural :
    (∀ e : Expr, e.draft.image = .ok e.image) ∧
    (∀ l, Expr.image (.leaf l) = .ofLabel l) ∧
    (∀ op first second rest, Expr.image (.group op first second rest) =
      .ofGroup op ((first :: second :: rest).map Expr.image)) ∧
    (∀ e e' : Expr, e.draft.image = e'.draft.image ↔ e = e') ∧
    ∀ t : Draft, ((∃ v, t.image = .error v) ↔ ∃ v, .foreign v ∈ t.leaves) ∧
      ∀ v, t.image = .error v ↔ t.surveyed.head? = some v := by
  have himage (e : Expr) : e.draft.image = .ok e.image := by
    rw [Expr.image_eq_mirror, Expr.image_draft]
  have hhead (t : Draft) (v : Value) : t.image = .error v ↔ t.surveyed.head? = some v := by
    rw [← refused?_image, refused?_eq_some_iff]
  refine ⟨himage, Expr.image_leaf, Expr.image_group, ?_, fun t => ⟨?_, hhead t⟩⟩
  · intro e e'
    rw [himage, himage, Except.ok.injEq]
    exact Expr.image_injective.eq_iff
  · simp only [hhead, ← mem_surveyed_iff]
    cases t.surveyed <;> simp

end Draft

end Clearance
