import Clearance.Tree
import Clearance.Refusal

/-! What has been read between two parentheses, before it becomes a tree. -/
namespace Clearance

/-- Sub-trees and bare items, each in the order they were met, and the operator met first. -/
structure Scope (α : Type) where
  nodes : List (Tree α)
  labels : List α
  operator : Option Token.Kind

namespace Scope
variable {α : Type}

def empty : Scope α := ⟨[], [], none⟩

def addNode (s : Scope α) (t : Tree α) : Scope α := { s with nodes := s.nodes ++ [t] }

def addLabel (s : Scope α) (a : α) : Scope α := { s with labels := s.labels ++ [a] }

/-- A scope has one operator, which may be repeated. -/
def setOperator (s : Scope α) (kind : Token.Kind) : Except Refusal (Scope α) :=
  match s.operator with
  | none => .ok { s with operator := some kind }
  | some declared => if declared = kind then .ok s else .error (.malformed .mixedOperators)

/-- Sub-trees come before bare items. -/
def items (s : Scope α) : List (Tree α) := s.nodes ++ s.labels.map .leaf

@[simp] theorem items_empty : (empty : Scope α).items = [] := rfl

@[simp] theorem items_addLabel (s : Scope α) (a : α) :
    (s.addLabel a).items = s.items ++ [.leaf a] := by simp [items, addLabel]

/-- The connective a kind of token stands for: all but `and` join alternatives. -/
def connective : Token.Kind → Connective
  | .and => .and
  | _ => .or

/-- A single item stands for itself; several need an operator, and none is no tree at all. -/
def build (s : Scope α) : Except Refusal (Tree α) :=
  match s.items, s.operator with
  | [t], _ => .ok t
  | first :: second :: rest, some kind => .ok (.group (connective kind) first second rest)
  | _, _ => .error (.malformed .missingOperator)

end Scope

end Clearance
