import Clearance.Draft.Render
import Clearance.Proofs.ShortCircuit

/-! The text of a draft by recursion, or the value that is refused. The writer that keeps a stack of
groups comes to the same. -/
namespace Clearance
namespace Draft

mutual
/-- The text of a draft among others: a group stands between parentheses. Its children are those up
to the first null, and the first of them that is refused is refused for all. -/
def piece : Draft → Except Value Text
  | .leaf (.label l) => .ok (Label.render l)
  | .leaf (.foreign v) => .error v
  | .group op first second rest => do
    let texts ←
      (unlessNull first (piece first) (unlessNull second (piece second) (pieces rest))).mapM id
    pure ('(' :: Text.join op.spelling texts ++ [')'])

def pieces : List Draft → List (Except Value Text)
  | [] => []
  | t :: ts => unlessNull t (piece t) (pieces ts)
end

@[simp] theorem pieces_eq (ts : List Draft) : pieces ts = (present ts).map piece := by
  induction ts with
  | nil => rfl
  | cons t ts ih => rw [pieces, ih, map_present_cons]

@[simp] theorem piece_label (l : Label) : piece (.leaf (.label l)) = .ok (Label.render l) := by
  rw [piece]

@[simp] theorem piece_foreign (v : Value) : piece (.leaf (.foreign v)) = .error v := by rw [piece]

@[simp] theorem piece_group (op : Connective) (s t : Draft) (rest : List Draft) :
    piece (.group op s t rest) = (present (s :: t :: rest)).mapM piece >>= fun texts =>
      .ok ('(' :: Text.join op.spelling texts ++ [')']) := by
  rw [piece, pieces_eq, ← map_present_cons, ← map_present_cons, List.mapM_map]
  rfl

lemma write_finished (op outer : Connective) (parts before : List Text) (rest : List Draft)
    (below : List Sheet) : write ⟨op, [], parts⟩ (⟨outer, rest, before⟩ :: below) =
      write ⟨outer, rest, before ++ ['(' :: Text.join op.spelling parts ++ [')']]⟩ below := by
  conv_lhs => rw [write]
  rfl

lemma write_label (op : Connective) (l : Label) (rest : List Draft) (parts : List Text)
    (below : List Sheet) : write ⟨op, .leaf (.label l) :: rest, parts⟩ below =
      write ⟨op, rest, parts ++ [Label.render l]⟩ below := by
  conv_lhs => rw [write]

lemma write_null {t : Draft} (h : t.isNull = true) (op : Connective) (rest : List Draft)
    (parts : List Text) (below : List Sheet) :
    write ⟨op, t :: rest, parts⟩ below = write ⟨op, [], parts⟩ below := by
  unfold isNull at h
  split at h
  · conv_lhs => rw [write]
  · contradiction

lemma write_foreign {v : Value} (h : v ≠ .null) (op : Connective) (rest : List Draft)
    (parts : List Text) (below : List Sheet) :
    write ⟨op, .leaf (.foreign v) :: rest, parts⟩ below = .error v := by
  rw [write]
  exact h

lemma write_group (op inner : Connective) (s t : Draft) (children rest : List Draft)
    (parts : List Text) (below : List Sheet) :
    write ⟨op, .group inner s t children :: rest, parts⟩ below =
      write ⟨inner, s :: t :: children, []⟩ (⟨op, rest, parts⟩ :: below) := by
  conv_lhs => rw [write]

/-- What writing a child adds to the group around it, unless it is refused. -/
def Written (t : Draft) : Prop :=
  ∀ op rest parts below, write ⟨op, t :: rest, parts⟩ below =
    piece t >>= fun text => write ⟨op, rest, parts ++ [text]⟩ below

lemma write_children {ts : List Draft} (h : ∀ t ∈ ts, isNull t = false → Written t)
    (op : Connective) (parts : List Text) (below : List Sheet) :
    write ⟨op, ts, parts⟩ below =
      (present ts).mapM piece >>= fun texts => write ⟨op, [], parts ++ texts⟩ below := by
  induction ts generalizing parts with
  | nil =>
    show _ = write ⟨op, [], parts ++ []⟩ below
    rw [List.append_nil]
  | cons t ts ih =>
    obtain ⟨hfirst, hrest⟩ := List.forall_mem_cons.mp h
    cases hn : t.isNull with
    | true =>
      rw [write_null hn, present_cons_of_null hn]
      show _ = write ⟨op, [], parts ++ []⟩ below
      rw [List.append_nil]
    | false =>
      rw [hfirst hn, present_cons hn, List.mapM_cons, bind_assoc]
      refine bind_congr fun text => ?_
      simp only [ih hrest, bind_assoc, pure_bind, List.append_assoc, List.singleton_append]

theorem written (t : Draft) : t.isNull = false → Written t := by
  induction t using Tree.induction with
  | leaf a =>
    intro hn op rest parts below
    cases a with
    | label l =>
      rw [write_label, piece_label]
      rfl
    | foreign v =>
      have hv : v ≠ .null := by
        rintro rfl
        contradiction
      rw [write_foreign hv, piece_foreign]
      rfl
  | group inner first second children ih =>
    intro _ op rest parts below
    rw [write_group, write_children ih, piece_group, bind_assoc]
    refine bind_congr fun texts => ?_
    rw [write_finished, List.nil_append]
    rfl

/-- A group by itself has no parentheses around it. -/
lemma render_group (op : Connective) (s t : Draft) (rest : List Draft) :
    render (.group op s t rest) = (present (s :: t :: rest)).mapM piece >>= fun texts =>
      .ok (Text.join op.spelling texts) := by
  rw [render, write_children fun t _ => written t]
  refine bind_congr fun texts => ?_
  rw [write, List.nil_append]
  rfl

/-- How a text stands among others: that of a group between parentheses, that of a leaf as it is. -/
def enclose (t : Draft) (text : Text) : Text := if t.isGroup then '(' :: text ++ [')'] else text

lemma piece_eq_map_render (t : Draft) : piece t = (render t).map (enclose t) := by
  match t with
  | .leaf (.label l) =>
    rw [piece_label, render]
    rfl
  | .leaf (.foreign v) =>
    rw [piece_foreign, render]
    rfl
  | .group op first second rest =>
    rw [piece_group, render_group]
    cases (present (first :: second :: rest)).mapM piece <;> rfl

end Draft
end Clearance
