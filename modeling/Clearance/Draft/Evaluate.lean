import Clearance.Draft

/-! Whether a tree is satisfied by the labels held. The walk keeps its own stack, so the depth of
a tree is not bounded by the depth of calls. -/
namespace Clearance

namespace Draft

/-- A group that the walk has entered, and the children it has yet to visit. -/
structure Frame where
  op : Connective
  rest : List Draft

def Frame.work (f : Frame) : Nat := 1 + Tree.workAll f.rest

/-- The steps left to a walk. -/
def work : List Frame → Nat
  | [] => 0
  | f :: fs => f.work + work fs

@[simp] theorem work_nil : work [] = 0 := rfl

@[simp] theorem work_cons (f : Frame) (fs : List Frame) : work (f :: fs) = f.work + work fs := rfl

/-- How a walk ends, and the labels it looked up on the way, in order. -/
structure Walk where
  outcome : Except Value Bool
  lookups : List Label

/-- One visit at a time. `value` is that of the child just finished, `seen` the labels looked up,
the last one first. A null child ends its group as if no child came after it. -/
def walk (held : Label → Bool) (stack : List Frame) (value : Option Bool) (seen : List Label) :
    Walk :=
  match stack, value with
  | [], value => ⟨.ok (value.getD false), seen.reverse⟩
  | ⟨op, rest⟩ :: fs, some v =>
    if op.settledBy v then walk held fs (some v) seen
    else walk held (⟨op, rest⟩ :: fs) none seen
  | ⟨op, []⟩ :: fs, none => walk held fs (some op.unsettled) seen
  | ⟨op, .leaf (.label l) :: rest⟩ :: fs, none =>
    walk held (⟨op, rest⟩ :: fs) (some (held l)) (l :: seen)
  | ⟨op, .leaf (.foreign .null) :: _⟩ :: fs, none => walk held fs (some op.unsettled) seen
  | ⟨_, .leaf (.foreign v) :: _⟩ :: _, none => ⟨.error v, seen.reverse⟩
  | ⟨op, .group inner first second children :: rest⟩ :: fs, none =>
    walk held (⟨inner, first :: second :: children⟩ :: ⟨op, rest⟩ :: fs) none seen
termination_by 2 * work stack + (if value.isSome then 1 else 0)
decreasing_by
  all_goals simp [Frame.work, Tree.workAll, Tree.work]
  all_goals omega

/-- The value of a draft under the labels held. -/
def evaluate (held : Label → Bool) : Draft → Walk
  | .leaf (.label l) => ⟨.ok (held l), [l]⟩
  | .leaf (.foreign v) => ⟨.error v, []⟩
  | .group op first second rest => walk held [⟨op, first :: second :: rest⟩] none []

end Draft

namespace Expr

/-- The labels looked up, in order: children to the right of one that settles its group are not
visited. -/
def lookups (e : Expr) (held : Label → Bool) : List Label := (e.draft.evaluate held).lookups

/-- Access is granted by a walk that ends with true, and by nothing else. -/
def evaluate (e : Expr) (held : Label → Bool) : Bool :=
  match (e.draft.evaluate held).outcome with
  | .ok value => value
  | .error _ => false

end Expr

end Clearance
