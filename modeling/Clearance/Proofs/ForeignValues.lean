import Clearance.Proofs.FirstRefused
import Clearance.Proofs.Meaning

/-! Values that are no nodes, and who refuses a group that holds one. Null is let through in the
place of a child: the walks from left to right take it for the end of its group. -/
namespace Clearance

/-- There is a refusal if and only if there is a value to be refused, and then for such a one. -/
def RefusedFor {α : Type} (x : Except Value α) (bad : Value → Prop) : Prop :=
  match x with
  | .error v => bad v
  | .ok _ => ∀ v, ¬ bad v

namespace RefusedFor
variable {α : Type} {x : Except Value α} {bad : Value → Prop}

lemma exists_error_iff (h : RefusedFor x bad) : (∃ v, x = .error v) ↔ ∃ v, bad v := by
  cases x with
  | error v => exact ⟨fun _ => ⟨v, h⟩, fun _ => ⟨v, rfl⟩⟩
  | ok a =>
    constructor
    · rintro ⟨_, he⟩
      contradiction
    · rintro ⟨v, hv⟩
      exact absurd hv (h v)

/-- The first of some values is refused, so all of them count as reasons. -/
lemma of_head {vs : List Value} (h : refused? x = vs.head?) (hiff : ∀ v, v ∈ vs ↔ bad v) :
    RefusedFor x bad := by
  cases x with
  | error v => exact (hiff v).mp (List.mem_of_head? h.symm)
  | ok a =>
    obtain rfl := List.head?_eq_none_iff.mp h.symm
    exact fun v hv => List.not_mem_nil ((hiff v).mpr hv)

end RefusedFor

namespace Draft

/-- The value stands at a leaf, and no null stands before the leaf or before a group around it. -/
inductive Shows (v : Value) : Draft → Prop
  | leaf : Shows v (.leaf (.foreign v))
  | child {op first second rest t} (mem : t ∈ present (first :: second :: rest))
      (below : Shows v t) : Shows v (.group op first second rest)

lemma shows_leaf_iff {v : Value} {a : Entry} : Shows v (.leaf a) ↔ a = .foreign v := by
  constructor
  · rintro ⟨⟩
    rfl
  · rintro rfl
    exact .leaf

lemma shows_group_iff {v : Value} {op : Connective} {s t : Draft} {rest : List Draft} :
    Shows v (.group op s t rest) ↔ ∃ u ∈ present (s :: t :: rest), Shows v u := by
  constructor
  · rintro (_ | ⟨mem, below⟩)
    exact ⟨_, mem, below⟩
  · rintro ⟨u, mem, below⟩
    exact .child mem below

lemma mem_shown_iff {t : Draft} {v : Value} : v ∈ shown t ↔ Shows v t := by
  induction t using Tree.induction with
  | leaf a => cases a <;> simp [shows_leaf_iff, eq_comm]
  | group op first second rest ih =>
    rw [shown_group, List.mem_flatMap, shows_group_iff]
    exact exists_congr fun u => and_congr_right fun hu => ih u (present_subset _ hu)

/-- What is written is refused for the values that no null hides. -/
theorem refusedFor_render (t : Draft) : RefusedFor (render t) fun v => Shows v t :=
  .of_head (refused?_render t) fun _ => mem_shown_iff

/-- The image is refused for every value that is no node, null among them. -/
theorem refusedFor_image (t : Draft) : RefusedFor (image t) fun v => .foreign v ∈ t.leaves :=
  .of_head (refused?_image t) fun _ => mem_surveyed_iff

section Inspect
variable (held : Label → Bool)

mutual
/-- The walk that refuses null as it does any other value that is no node. -/
def inspect : Draft → Walk
  | .leaf (.label l) => ⟨.ok (held l), [l]⟩
  | .leaf (.foreign v) => ⟨.error v, []⟩
  | .group op first second rest => .join op (inspect first :: inspect second :: inspects rest)

def inspects : List Draft → List Walk
  | [] => []
  | t :: ts => inspect t :: inspects ts
end

@[simp] theorem inspects_eq (ts : List Draft) : inspects held ts = ts.map (inspect held) := by
  induction ts with
  | nil => rfl
  | cons t ts ih => simp [inspects, ih]

@[simp] theorem inspect_label (l : Label) :
    inspect held (.leaf (.label l)) = ⟨.ok (held l), [l]⟩ := by
  rw [inspect]

@[simp] theorem inspect_foreign (v : Value) :
    inspect held (.leaf (.foreign v)) = ⟨.error v, []⟩ := by
  rw [inspect]

@[simp] theorem inspect_group (op : Connective) (s t : Draft) (rest : List Draft) :
    inspect held (.group op s t rest) = .join op ((s :: t :: rest).map (inspect held)) := by
  simp [inspect]

end Inspect

section Compare
variable {held : Label → Bool}

lemma inspect_of_isNull {t : Draft} (h : t.isNull = true) :
    (inspect held t).outcome = .error .null := by
  unfold isNull at h
  split at h
  · rw [inspect_foreign]
  · contradiction

/-- A group is refused for one of its children. -/
lemma Walk.refused_of_join {op : Connective} {ws : List Walk} {r : Value}
    (h : (Walk.join op ws).outcome = .error r) : ∃ w ∈ ws, w.outcome = .error r := by
  induction ws with
  | nil => contradiction
  | cons w ws ih =>
    cases ho : w.outcome with
    | error v =>
      rw [Walk.join_of_refused ho] at h
      exact ⟨w, List.mem_cons_self, h⟩
    | ok v =>
      cases hv : op.settledBy v with
      | true =>
        rw [Walk.join_of_settled ho hv, ho] at h
        contradiction
      | false =>
        rw [Walk.join_of_open ho hv] at h
        obtain ⟨w, hw, hr⟩ := ih h
        exact ⟨w, List.mem_cons_of_mem _ hw, hr⟩

/-- A null is never the reason why a child is refused, or a group. -/
lemma visit_ne_null {t : Draft} (h : t.isNull = false) :
    (visit held t).outcome ≠ .error .null := by
  induction t using Tree.induction with
  | leaf a =>
    cases a with
    | label l => simp
    | foreign v =>
      rw [visit_foreign]
      rintro ⟨⟩
      contradiction
  | group op first second rest ih =>
    rw [visit_group]
    intro hnull
    obtain ⟨_, hw, hr⟩ := Walk.refused_of_join hnull
    obtain ⟨u, hu, rfl⟩ := List.mem_map.mp hw
    have hmark := List.all_eq_true.mp List.all_takeWhile u hu
    exact ih u (present_subset _ hu) (by simpa using hmark) hr

/-- As long as no null is come upon, the children of a group are joined alike. -/
lemma join_present {op : Connective} {ts : List Draft}
    (h : ∀ t ∈ ts, (inspect held t).outcome ≠ .error .null → visit held t = inspect held t)
    (hj : (Walk.join op (ts.map (inspect held))).outcome ≠ .error .null) :
    Walk.join op ((present ts).map (visit held)) = Walk.join op (ts.map (inspect held)) := by
  induction ts with
  | nil => rfl
  | cons t ts ih =>
    obtain ⟨hfirst, hrest⟩ := List.forall_mem_cons.mp h
    rw [List.map_cons] at hj ⊢
    have hsome : t.isNull = false := by
      by_contra hn
      have ho : (inspect held t).outcome = .error .null :=
        inspect_of_isNull (Bool.eq_true_of_not_eq_false hn)
      rw [Walk.join_of_refused ho] at hj
      exact hj ho
    rw [present_cons hsome, List.map_cons]
    cases ho : (inspect held t).outcome with
    | error r =>
      rw [Walk.join_of_refused ho] at hj
      rw [hfirst hj, Walk.join_of_refused ho, Walk.join_of_refused ho]
    | ok v =>
      have hsame : visit held t = inspect held t := hfirst (by simp [ho])
      rw [hsame]
      cases hv : op.settledBy v with
      | true => rw [Walk.join_of_settled ho hv, Walk.join_of_settled ho hv]
      | false =>
        rw [Walk.join_of_open ho hv] at hj
        rw [Walk.join_of_open ho hv, Walk.join_of_open ho hv, ih hrest hj]

theorem visit_eq_inspect {t : Draft} (h : (inspect held t).outcome ≠ .error .null) :
    visit held t = inspect held t := by
  induction t using Tree.induction with
  | leaf a => cases a <;> simp
  | group op first second rest ih =>
    rw [inspect_group] at h
    rw [visit_group, inspect_group]
    exact join_present ih h

/-- What is refused stands among the leaves. -/
lemma mem_leaves_of_inspect {t : Draft} {v : Value} (h : (inspect held t).outcome = .error v) :
    .foreign v ∈ t.leaves := by
  induction t using Tree.induction with
  | leaf a =>
    cases a with
    | label l => simp at h
    | foreign w =>
      rw [inspect_foreign] at h
      obtain rfl := Except.error.inj h
      exact List.mem_singleton_self _
  | group op first second rest ih =>
    rw [inspect_group] at h
    obtain ⟨_, hw, hr⟩ := Walk.refused_of_join h
    obtain ⟨u, hu, rfl⟩ := List.mem_map.mp hw
    rw [Tree.leaves_group]
    exact List.mem_flatMap.mpr ⟨u, hu, ih u hu hr⟩

end Compare

/-- Without nulls nothing is hidden. -/
lemma shows_iff_of_no_null {t : Draft} {v : Value} (hn : .foreign .null ∉ t.leaves) :
    Shows v t ↔ .foreign v ∈ t.leaves := by
  induction t using Tree.induction with
  | leaf a => simp [shows_leaf_iff, Tree.leaves, eq_comm]
  | group op first second rest ih =>
    rw [Tree.leaves_group] at hn ⊢
    have hnone : ∀ u ∈ first :: second :: rest, .foreign .null ∉ u.leaves :=
      fun u hu hnull => hn (List.mem_flatMap.mpr ⟨u, hu, hnull⟩)
    have hall : present (first :: second :: rest) = first :: second :: rest := by
      apply List.takeWhile_eq_self_iff.mpr
      intro u hu
      have hleaf := hnone u hu
      unfold isNull
      split
      · simp [Tree.leaves] at hleaf
      · rfl
    rw [shows_group_iff, hall, List.mem_flatMap]
    exact exists_congr fun u => and_congr_right fun hu => ih u hu (hnone u hu)

/-- A group has no image if any value in it is no node. To write it is refused unless every such
value stands behind a null, and to evaluate it is refused for the value that the walk comes upon,
unless that is null. Where there is no null, writing refuses every group with such a value in it and
evaluation is the walk that refuses whatever is no node. -/
theorem foreign_refused_unless_null {t : Draft} (hgroup : t.isGroup = true)
    (mapping : Label → Option Value) :
    ((∃ v, t.image = .error v) ↔ ∃ v, .foreign v ∈ t.leaves) ∧
    ((∃ v, t.render = .error v) ↔ ∃ v, Shows v t) ∧
    (∀ v, (t.inspect (Label.granted mapping)).outcome = .error v →
      ((t.evaluate (Label.granted mapping)).outcome = .error v ↔ v ≠ .null)) ∧
    (∀ b, (t.inspect (Label.granted mapping)).outcome = .ok b →
      t.evaluate (Label.granted mapping) = t.inspect (Label.granted mapping)) ∧
    (.foreign .null ∉ t.leaves →
      ((∃ v, t.render = .error v) ↔ ∃ v, .foreign v ∈ t.leaves) ∧
      t.evaluate (Label.granted mapping) = t.inspect (Label.granted mapping)) := by
  rw [evaluate_eq_visit]
  refine ⟨(refusedFor_image t).exists_error_iff, (refusedFor_render t).exists_error_iff, ?_, ?_, ?_⟩
  · intro v hv
    constructor
    · rintro h rfl
      have hnode : t.isNull = false := by
        cases t with
        | leaf a => contradiction
        | group op first second rest => rfl
      exact visit_ne_null hnode h
    · intro hne
      rw [visit_eq_inspect (by simpa [hv] using hne), hv]
  · intro b hb
    exact visit_eq_inspect (by simp [hb])
  · intro hn
    refine ⟨?_, visit_eq_inspect fun h => hn (mem_leaves_of_inspect h)⟩
    rw [(refusedFor_render t).exists_error_iff]
    exact exists_congr fun v => shows_iff_of_no_null hn

/-- A text in a group that is come upon when its sibling does not settle the group around it. -/
theorem foreign_refused_unless_null_text :
    let t : Draft := .group .or (.leaf (.label ['a']))
      (.group .and (.leaf (.foreign (.str "b"))) (.leaf (.label ['c'])) []) []
    let nothing : Label → Option Value := fun _ => none
    let everything : Label → Option Value := fun _ => some (.int 1)
    t.isGroup = true ∧ .foreign .null ∉ t.leaves ∧
    (∃ v, t.image = .error v) ∧ (∃ v, t.render = .error v) ∧
    ((t.inspect (Label.granted nothing)).outcome = .error (.str "b") ∧
      (t.evaluate (Label.granted nothing)).outcome = .error (.str "b")) ∧
    ((t.inspect (Label.granted everything)).outcome = .ok true ∧
      t.evaluate (Label.granted everything) = t.inspect (Label.granted everything)) := by
  intro t nothing everything
  have hgroup : t.isGroup = true := rfl
  have hn : .foreign .null ∉ t.leaves := by simp [t, Tree.leaves]
  have hforeign : ∃ v, Entry.foreign v ∈ t.leaves := ⟨.str "b", by simp [t, Tree.leaves]⟩
  have herror : (t.inspect (Label.granted nothing)).outcome = .error (.str "b") := rfl
  have hok : (t.inspect (Label.granted everything)).outcome = .ok true := rfl
  obtain ⟨himage, _, hrefused, _, hplain⟩ := foreign_refused_unless_null hgroup nothing
  obtain ⟨_, _, _, hdecided, _⟩ := foreign_refused_unless_null hgroup everything
  obtain ⟨hrender, _⟩ := hplain hn
  exact ⟨hgroup, hn, himage.mpr hforeign, hrender.mpr hforeign,
    ⟨herror, (hrefused _ herror).mpr (by simp)⟩, hok, hdecided true hok⟩

/-- A null among the children of a group makes it true without the label after it, and the group is
written as if it ended there. -/
theorem null_hides_siblings :
    let t : Draft := .group .and (.leaf (.label ['a'])) (.leaf (.foreign .null))
      [.leaf (.label ['b'])]
    let mapping : Label → Option Value := fun l => if l = ['a'] then some (.bool true) else none
    t.inspect (Label.granted mapping) = ⟨.error .null, [['a']]⟩ ∧
      t.evaluate (Label.granted mapping) = ⟨.ok true, [['a']]⟩ ∧
      t.render = .ok ['a'] ∧ t.image = .error .null := by
  intro t mapping
  refine ⟨rfl, ?_, ?_, ?_⟩
  · rw [evaluate_eq_visit]
    rfl
  · rw [render_group]
    rfl
  · rw [image, survey]
    rfl

end Draft
end Clearance
