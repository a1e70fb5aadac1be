import Clearance.Text

/-! Boolean trees whose groups ask for all or for one of their children. -/
namespace Clearance

/-- A group joined by `and` asks for all of its children, one joined by `or` for some child. -/
inductive Connective
  | and | or
deriving DecidableEq, Repr

namespace Connective

/-- A child of this value settles the group, whatever the children after it. -/
def settledBy : Connective → Bool → Bool
  | and, value => !value
  | or, value => value

/-- The value of a group that no child settles. -/
def unsettled : Connective → Bool
  | and => true
  | or => false

def capitals : Connective → String
  | and => "AND"
  | or => "OR"

end Connective

/-- A leaf, or a group of at least two children. -/
inductive Tree (α : Type) where
  | leaf (item : α)
  | group (op : Connective) (first second : Tree α) (rest : List (Tree α))
deriving Inhabited

namespace Tree
variable {α β : Type}

def children : Tree α → List (Tree α)
  | leaf _ => []
  | group _ first second rest => first :: second :: rest

@[simp] theorem children_leaf (a : α) : (leaf a).children = [] := rfl

@[simp] theorem children_group (op : Connective) (s t : Tree α) (rest : List (Tree α)) :
    (group op s t rest).children = s :: t :: rest := rfl

/-- Fewer than two children make no group. -/
def ofChildren? (op : Connective) : List (Tree α) → Option (Tree α)
  | first :: second :: rest => some (group op first second rest)
  | _ => none

/-- What the caller is told who gives a group too few children. -/
def tooFew (op : Connective) : String :=
  (match op with | .and => "And" | .or => "Or") ++ " requires at least two children"

mutual
/-- Applies a function to every leaf. -/
def map (f : α → β) : Tree α → Tree β
  | leaf a => leaf (f a)
  | group op first second rest => group op (first.map f) (second.map f) (mapAll f rest)

def mapAll (f : α → β) : List (Tree α) → List (Tree β)
  | [] => []
  | t :: ts => t.map f :: mapAll f ts
end

@[simp] theorem mapAll_eq (f : α → β) (ts : List (Tree α)) : mapAll f ts = ts.map (map f) := by
  induction ts with
  | nil => rfl
  | cons t ts ih => simp [mapAll, ih]

mutual
/-- The leaves from left to right. -/
def leaves : Tree α → List α
  | leaf a => [a]
  | group _ first second rest => first.leaves ++ second.leaves ++ leavesAll rest

def leavesAll : List (Tree α) → List α
  | [] => []
  | t :: ts => t.leaves ++ leavesAll ts
end

@[simp] theorem leavesAll_eq (ts : List (Tree α)) : leavesAll ts = ts.flatMap leaves := by
  induction ts with
  | nil => rfl
  | cons t ts ih => simp [leavesAll, ih]

mutual
/-- The steps of a walk: one takes a leaf, two enter and leave a group. -/
def work : Tree α → Nat
  | leaf _ => 1
  | group _ first second rest => 2 + first.work + second.work + workAll rest

def workAll : List (Tree α) → Nat
  | [] => 0
  | t :: ts => t.work + workAll ts
end

@[simp] theorem workAll_append (ts us : List (Tree α)) :
    workAll (ts ++ us) = workAll ts + workAll us := by
  induction ts with
  | nil => simp [workAll]
  | cons t ts ih => simp [workAll, ih, Nat.add_assoc]

mutual
/-- Trees are equal when they have the same groups and leaves in the same order. -/
def decEq [DecidableEq α] : (s t : Tree α) → Decidable (s = t)
  | leaf a, leaf b => decidable_of_iff (a = b) (by simp)
  | leaf _, group .. => isFalse (by simp)
  | group .., leaf _ => isFalse (by simp)
  | group o a b r, group p c d s =>
    have := decEq a c
    have := decEq b d
    have := decEqAll r s
    decidable_of_iff (o = p ∧ a = c ∧ b = d ∧ r = s) (by simp)

def decEqAll [DecidableEq α] : (ss ts : List (Tree α)) → Decidable (ss = ts)
  | [], [] => isTrue rfl
  | [], _ :: _ => isFalse (by simp)
  | _ :: _, [] => isFalse (by simp)
  | s :: ss, t :: ts =>
    have := decEq s t
    have := decEqAll ss ts
    decidable_of_iff (s = t ∧ ss = ts) (by simp)
end

instance [DecidableEq α] : DecidableEq (Tree α) := decEq

end Tree

/-- A label as it is held and asked for; escapes in it stay as they were written. -/
abbrev Label := Text

/-- An expression asks for labels. -/
abbrev Expr := Tree Label

end Clearance
