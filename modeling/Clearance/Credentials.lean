import Clearance.Refusal
import Clearance.Tree

/-! Credentials: the labels that a caller holds, listed in a text with commas between them. -/
namespace Clearance

/-- Distinct labels in the order they were first listed. -/
abbrev LabelSet := List Label

namespace LabelSet

def holds (s : LabelSet) (l : Label) : Bool := l ∈ s

end LabelSet

namespace Credentials

/-- One quote is taken off the front and one off the end, whether or not both are there. -/
def unquote (s : Text) : Label :=
  let s := match s with
    | '"' :: rest => rest
    | s => s
  if s.getLast? = some '"' then s.dropLast else s

/-- The label that an item of the list names. -/
def label (item : Text) : Label := unquote item.trim

def items (credentials : Text) : List Text := Text.splitOn ',' credentials

/-- The first item that is blank, with its place in the list. -/
def blank? (credentials : Text) : Option (Text × Nat) :=
  (items credentials).zipIdx.find? fun p => p.1.trim = []

/-- Every item is a label, the empty one too; when strict, a blank item is refused. -/
def read (strict : Bool) (credentials : Text) : Except Refusal LabelSet :=
  match if strict then blank? credentials else none with
  | some (item, index) => .error (.emptyLabel index item)
  | none => .ok ((items credentials).map label).eraseDups

theorem read_default (credentials : Text) :
    read false credentials = .ok ((items credentials).map label).eraseDups := rfl

end Credentials

end Clearance
