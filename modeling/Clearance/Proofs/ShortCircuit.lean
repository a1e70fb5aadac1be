import Clearance.Draft.Evaluate
import Clearance.Proofs.CanonicalOrder
import Mathlib.Data.List.TakeWhile

/-! The walk over a draft by recursion: what it comes to, and the labels it looks up on the way. The
walk that keeps a stack of groups comes to the same. -/
namespace Clearance
namespace Draft

/-- Null in the place of a node. -/
def isNull : Draft → Bool
  | .leaf (.foreign .null) => true
  | _ => false

/-- The children of a group up to the first null. -/
def present (ts : List Draft) : List Draft := ts.takeWhile fun t => !t.isNull

section Present
variable {t : Draft}

lemma present_cons_of_null (h : t.isNull = true) (ts : List Draft) : present (t :: ts) = [] := by
  simp [present, h]

lemma present_cons (h : t.isNull = false) (ts : List Draft) :
    present (t :: ts) = t :: present ts := by
  simp [present, h]

lemma present_subset (ts : List Draft) : present ts ⊆ ts := List.takeWhile_subset _

end Present

/-- What is found for a child and for the children after it. A null is found to be nothing, and so
is all that comes after it. -/
def unlessNull {α : Type} (t : Draft) (here : α) (after : List α) : List α :=
  if t.isNull then [] else here :: after

lemma map_present_cons {α : Type} (f : Draft → α) (t : Draft) (ts : List Draft) :
    (present (t :: ts)).map f = unlessNull t (f t) ((present ts).map f) := by
  cases h : t.isNull with
  | true => rw [present_cons_of_null h, unlessNull, if_pos h, List.map_nil]
  | false => rw [present_cons h, unlessNull, if_neg (by simp [h]), List.map_cons]

namespace Walk

/-- The same end, after some labels that were looked up before. -/
def after (before : List Label) (w : Walk) : Walk := ⟨w.outcome, before ++ w.lookups⟩

/-- The walks over the children of a group, one after the other: the first that is refused or
settles the group is the last one. -/
def join (op : Connective) : List Walk → Walk
  | [] => ⟨.ok op.unsettled, []⟩
  | w :: ws =>
    match w.outcome with
    | .error _ => w
    | .ok v => if op.settledBy v then w else (join op ws).after w.lookups

section Join
variable {op : Connective} {w : Walk} {v : Bool}

@[simp] theorem join_nil (op : Connective) : join op [] = ⟨.ok op.unsettled, []⟩ := rfl

lemma join_of_refused {r : Value} (h : w.outcome = .error r) (ws : List Walk) :
    join op (w :: ws) = w := by
  simp [join, h]

lemma join_of_settled (h : w.outcome = .ok v) (hv : op.settledBy v = true) (ws : List Walk) :
    join op (w :: ws) = w := by
  simp [join, h, hv]

lemma join_of_open (h : w.outcome = .ok v) (hv : op.settledBy v = false) (ws : List Walk) :
    join op (w :: ws) = (join op ws).after w.lookups := by
  simp [join, h, hv]

end Join

/-- What comes of a walk for the groups around it: a refusal ends them too, and a value is handed on
together with all that was looked up, the last label first. -/
def resume (w : Walk) (seen : List Label) (next : Bool → List Label → Walk) : Walk :=
  match w.outcome with
  | .error v => ⟨.error v, seen.reverse ++ w.lookups⟩
  | .ok v => next v (w.lookups.reverse ++ seen)

section Resume
variable {w : Walk} {seen : List Label} {next : Bool → List Label → Walk}

lemma resume_of_refused {r : Value} (h : w.outcome = .error r) :
    w.resume seen next = ⟨.error r, seen.reverse ++ w.lookups⟩ := by
  simp [resume, h]

lemma resume_of_ok {v : Bool} (h : w.outcome = .ok v) :
    w.resume seen next = next v (w.lookups.reverse ++ seen) := by
  simp [resume, h]

lemma resume_after (before : List Label) :
    (w.after before).resume seen next = w.resume (before.reverse ++ seen) next := by
  cases h : w.outcome <;> simp [resume, after, h]

lemma resume_at_end : (w.resume [] fun v seen => ⟨.ok v, seen.reverse⟩) = w := by
  obtain ⟨outcome, lookups⟩ := w
  cases outcome <;> simp [resume]

end Resume

end Walk

section Visit
variable (held : Label → Bool)

mutual
/-- A label is looked up, and a value that is no node is refused. Of the children of a group those
up to the first null are visited, as long as none of them settles it. -/
def visit : Draft → Walk
  | .leaf (.label l) => ⟨.ok (held l), [l]⟩
  | .leaf (.foreign v) => ⟨.error v, []⟩
  | .group op first second rest =>
    .join op (unlessNull first (visit first) (unlessNull second (visit second) (visits rest)))

def visits : List Draft → List Walk
  | [] => []
  | t :: ts => unlessNull t (visit t) (visits ts)
end

@[simp] theorem visits_eq (ts : List Draft) : visits held ts = (present ts).map (visit held) := by
  induction ts with
  | nil => rfl
  | cons t ts ih => rw [visits, ih, map_present_cons]

@[simp] theorem visit_label (l : Label) : visit held (.leaf (.label l)) = ⟨.ok (held l), [l]⟩ := by
  rw [visit]

@[simp] theorem visit_foreign (v : Value) :
    visit held (.leaf (.foreign v)) = ⟨.error v, []⟩ := by
  rw [visit]

@[simp] theorem visit_group (op : Connective) (s t : Draft) (rest : List Draft) :
    visit held (.group op s t rest) = .join op ((present (s :: t :: rest)).map (visit held)) := by
  rw [visit, visits_eq, map_present_cons, map_present_cons]

end Visit

section Walk
variable (held : Label → Bool)

lemma walk_exhausted (op : Connective) (frames : List Frame) (seen : List Label) :
    walk held (⟨op, []⟩ :: frames) none seen = walk held frames (some op.unsettled) seen := by
  rw [walk]

lemma walk_label (op : Connective) (l : Label) (rest : List Draft) (frames : List Frame)
    (seen : List Label) : walk held (⟨op, .leaf (.label l) :: rest⟩ :: frames) none seen =
      walk held (⟨op, rest⟩ :: frames) (some (held l)) (l :: seen) := by
  conv_lhs => rw [walk]

lemma walk_null {t : Draft} (h : t.isNull = true) (op : Connective) (rest : List Draft)
    (frames : List Frame) (seen : List Label) :
    walk held (⟨op, t :: rest⟩ :: frames) none seen =
      walk held frames (some op.unsettled) seen := by
  unfold isNull at h
  split at h
  · rw [walk]
  · contradiction

lemma walk_foreign {v : Value} (h : v ≠ .null) (op : Connective) (rest : List Draft)
    (frames : List Frame) (seen : List Label) :
    walk held (⟨op, .leaf (.foreign v) :: rest⟩ :: frames) none seen =
      ⟨.error v, seen.reverse⟩ := by
  rw [walk]
  exact h

lemma walk_group (op inner : Connective) (s t : Draft) (children rest : List Draft)
    (frames : List Frame) (seen : List Label) :
    walk held (⟨op, .group inner s t children :: rest⟩ :: frames) none seen =
      walk held (⟨inner, s :: t :: children⟩ :: ⟨op, rest⟩ :: frames) none seen := by
  conv_lhs => rw [walk]

/-- A child that settles its group ends it; after any other the next one is visited. -/
lemma walk_finished (op : Connective) (v : Bool) (rest : List Draft) (frames : List Frame)
    (seen : List Label) : walk held (⟨op, rest⟩ :: frames) (some v) seen =
      if op.settledBy v then walk held frames (some v) seen
      else walk held (⟨op, rest⟩ :: frames) none seen := by
  conv_lhs => rw [walk]

/-- What the walk over a child comes to, as seen by the group around it. -/
def Visited (t : Draft) : Prop :=
  ∀ op rest frames seen, walk held (⟨op, t :: rest⟩ :: frames) none seen =
    (visit held t).resume seen fun v => walk held (⟨op, rest⟩ :: frames) (some v)

/-- A group is left with its value, whether all of its children were visited or not. -/
lemma walk_children {ts : List Draft} (h : ∀ t ∈ ts, t.isNull = false → Visited held t)
    (op : Connective) (frames : List Frame) (seen : List Label) :
    walk held (⟨op, ts⟩ :: frames) none seen =
      (Walk.join op ((present ts).map (visit held))).resume seen fun v =>
        walk held frames (some v) := by
  induction ts generalizing seen with
  | nil =>
    rw [walk_exhausted]
    rfl
  | cons t ts ih =>
    obtain ⟨hfirst, hrest⟩ := List.forall_mem_cons.mp h
    cases hn : t.isNull with
    | true =>
      rw [walk_null held hn, present_cons_of_null hn]
      rfl
    | false =>
      rw [hfirst hn, present_cons hn, List.map_cons]
      cases ho : (visit held t).outcome with
      | error r =>
        rw [Walk.join_of_refused ho, Walk.resume_of_refused ho, Walk.resume_of_refused ho]
      | ok v =>
        -- the value of a child goes to its own group first, which it settles or leaves open
        rw [Walk.resume_of_ok ho, walk_finished]
        cases hv : op.settledBy v with
        | true => rw [Walk.join_of_settled ho hv, Walk.resume_of_ok ho, if_pos rfl]
        | false => rw [Walk.join_of_open ho hv, Walk.resume_after, ← ih hrest, if_neg (by simp)]

theorem visited (t : Draft) : t.isNull = false → Visited held t := by
  induction t using Tree.induction with
  | leaf a =>
    intro hn op rest frames seen
    cases a with
    | label l =>
      rw [walk_label, visit_label]
      rfl
    | foreign v =>
      have hv : v ≠ .null := by
        rintro rfl
        contradiction
      rw [walk_foreign held hv, visit_foreign, Walk.resume_of_refused rfl, List.append_nil]
  | group inner first second children ih =>
    intro _ op rest frames seen
    rw [walk_group, walk_children held ih, visit_group]

/-- The walk with its stack is the walk by recursion. -/
theorem evaluate_eq_visit (t : Draft) : t.evaluate held = t.visit held := by
  match t with
  | .leaf (.label l) => rw [evaluate, visit_label]
  | .leaf (.foreign v) => rw [evaluate, visit_foreign]
  | .group op first second rest =>
    have hall : ∀ t ∈ first :: second :: rest, isNull t = false → Visited held t :=
      fun t _ => visited held t
    have hend : (fun v => walk held [] (some v)) = fun v seen => ⟨.ok v, seen.reverse⟩ := by
      funext v seen
      rw [walk]
      rfl
    rw [evaluate, walk_children held hall, hend, Walk.resume_at_end, visit_group]

end Walk

end Draft
end Clearance
