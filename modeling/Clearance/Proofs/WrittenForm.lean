import Clearance.Proofs.FirstRefused

/-! What a draft is written as, by recursion over it, and the value that it is refused for. The
writer that appends to the texts of unfinished groups comes to the same. -/
namespace Clearance.Draft

lemma render_label (l : Label) : render (.leaf (.label l)) =
    .ok (if l ≠ [] ∧ l.all Alphabet.isIdentifier then l else '"' :: l ++ ['"']) := by
  rw [render, Label.render]

lemma render_foreign (v : Value) : render (.leaf (.foreign v)) = .error v := by rw [render]

/-- The texts of the children up to the first null, with the operator between them. -/
lemma render_children (op : Connective) (s t : Draft) (rest : List Draft) :
    render (.group op s t rest) =
      ((present (s :: t :: rest)).mapM fun u => (render u).map (enclose u)).map
        (Text.join op.spelling) := by
  rw [render_group, funext piece_eq_map_render]
  cases (present (s :: t :: rest)).mapM fun u => (render u).map (enclose u) <;> rfl

/-- Writing is the one function that writes a label bare if it has characters and all are those of
identifiers, and otherwise between quotes as it is, that refuses a value that is no node, and that
joins the children of a group up to the first null by its operator, the groups among them between
parentheses. What is refused is the first such value from left to right that no null hides. -/
theorem eq_render_iff (f : Draft → Except Value Text) :
    (f = render ↔
      (∀ l, f (.leaf (.label l)) =
        .ok (if l ≠ [] ∧ l.all Alphabet.isIdentifier then l else '"' :: l ++ ['"'])) ∧
      (∀ v, f (.leaf (.foreign v)) = .error v) ∧
      ∀ op first second rest, f (.group op first second rest) =
        ((present (first :: second :: rest)).mapM fun t => (f t).map (enclose t)).map
          (Text.join op.spelling)) ∧
    ∀ t v, render t = .error v ↔ (shown t).head? = some v := by
  refine ⟨⟨?_, ?_⟩, ?_⟩
  · rintro rfl
    exact ⟨render_label, render_foreign, render_children⟩
  · rintro ⟨hlabel, hforeign, hgroup⟩
    -- the equations determine the function, since the children that are written are smaller
    funext t
    induction t using Tree.induction with
    | leaf a =>
      cases a with
      | label l => rw [hlabel, render_label]
      | foreign v => rw [hforeign, render_foreign]
    | group op first second rest ih =>
      have hmap (g : Draft → Except Value Text) : (present (first :: second :: rest)).mapM g =
          ((present (first :: second :: rest)).map g).mapM id := by
        rw [List.mapM_map]
        rfl
      have hsame : ((present (first :: second :: rest)).map fun t => (f t).map (enclose t)) =
          (present (first :: second :: rest)).map fun t => (render t).map (enclose t) := by
        apply List.map_congr_left
        intro t ht
        rw [ih t (present_subset _ ht)]
      rw [hgroup, render_children, hmap, hmap, hsame]
  · intro t v
    rw [← refused?_render, refused?_eq_some_iff]

end Clearance.Draft
