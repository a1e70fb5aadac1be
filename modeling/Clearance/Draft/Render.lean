import Clearance.Draft
import Clearance.Token

/-! Trees written as expression text. -/
namespace Clearance

/-- A label is written bare if it can be read back bare, and otherwise between quotes, unchanged. -/
def Label.render (l : Label) : Text :=
  if l ≠ [] ∧ l.all Alphabet.isIdentifier then l else '"' :: l ++ ['"']

def Connective.spelling : Connective → Text
  | and => [' ', '&', ' ']
  | or => [' ', '|', ' ']

namespace Draft

/-- A group being written: the children to come and the texts of those before them. -/
structure Sheet where
  op : Connective
  rest : List Draft
  parts : List Text

def Sheet.work (s : Sheet) : Nat := 1 + Tree.workAll s.rest

/-- The steps left to the writing of some groups. -/
def Sheet.workAll : List Sheet → Nat
  | [] => 0
  | s :: ss => s.work + workAll ss

def Sheet.text (s : Sheet) : Text := Text.join s.op.spelling s.parts

/-- Groups within groups are put in parentheses. A null child ends its group as if no child came
after it. -/
def write (top : Sheet) (below : List Sheet) : Except Value Text :=
  match top, below with
  | ⟨op, [], parts⟩, [] => .ok (Sheet.text ⟨op, [], parts⟩)
  | ⟨op, [], parts⟩, ⟨outer, rest, before⟩ :: below =>
    write ⟨outer, rest, before ++ ['(' :: Sheet.text ⟨op, [], parts⟩ ++ [')']]⟩ below
  | ⟨op, .leaf (.label l) :: rest, parts⟩, below =>
    write ⟨op, rest, parts ++ [Label.render l]⟩ below
  | ⟨op, .leaf (.foreign .null) :: _, parts⟩, below => write ⟨op, [], parts⟩ below
  | ⟨_, .leaf (.foreign v) :: _, _⟩, _ => .error v
  | ⟨op, .group inner first second children :: rest, parts⟩, below =>
    write ⟨inner, first :: second :: children, []⟩ (⟨op, rest, parts⟩ :: below)
termination_by top.work + Sheet.workAll below
decreasing_by
  all_goals simp only [Sheet.workAll, Sheet.work, Tree.workAll, Tree.work]
  all_goals omega

/-- The text of a draft, or the foreign value that the walk from left to right comes upon. -/
def render : Draft → Except Value Text
  | .leaf (.label l) => .ok (Label.render l)
  | .leaf (.foreign v) => .error v
  | .group op first second rest => write ⟨op, first :: second :: rest, []⟩ []

end Draft

/-- The text of an expression. -/
def Expr.render (e : Expr) : Text :=
  match e.draft.render with
  | .ok text => text
  | .error _ => []

end Clearance
