import Clearance.Display.Line
import Clearance.Display.Markup
import Clearance.Tree

/-! Trees drawn with guides. The branches of an expression are listed off a stack of work, so the
depth of a tree is not bounded by the depth of calls. -/
namespace Clearance

namespace Display

/-- A label, in markup, over branches. -/
inductive Outline
  | branch (label : Text) (branches : List Outline)
deriving Repr

namespace Outline

def label : Outline → Text
  | branch label _ => label

def branches : Outline → List Outline
  | branch _ branches => branches

/-- A branch and how deep it lies. -/
structure Entry where
  depth : Nat
  label : Text
deriving DecidableEq, Repr

/-- An entry in front of a forest takes what lies deeper as its own branches. -/
def graft (e : Entry) (forest : List (Nat × Outline)) : List (Nat × Outline) :=
  let deeper := fun (t : Nat × Outline) => e.depth < t.1
  (e.depth, branch e.label ((forest.takeWhile deeper).map Prod.snd)) :: forest.dropWhile deeper

/-- The forest that a listing from the top down describes. -/
def assemble (entries : List Entry) : List (Nat × Outline) := entries.foldr graft []

@[simp] theorem assemble_cons (e : Entry) (es : List Entry) :
    assemble (e :: es) = graft e (assemble es) := rfl

/-- The first line of a branch is led by an elbow, or by a tee if branches follow it. -/
def lead (last : Bool) : Text := (if last then "└── " else "├── ").toList

/-- Under a branch a bar runs on to the branches that follow it. -/
def guide (last : Bool) : Text := (if last then "    " else "│   ").toList

def labelLines (label : Text) : List Text := Line.ofText (Markup.render label)

/-- The lines of a branch: the first one led by one text, all others by another. -/
def hang (first others : Text) : List Text → List Text
  | [] => []
  | line :: lines => (first ++ line) :: lines.map (others ++ ·)

mutual
def lines : Outline → List Text
  | branch label branches => labelLines label ++ branchLines branches

/-- Branches one below the other, each with its guides. -/
def branchLines : List Outline → List Text
  | [] => []
  | t :: ts => hang (lead ts.isEmpty) (guide ts.isEmpty) t.lines ++ branchLines ts
end

/-- The drawing of a tree, line by line. -/
def draw (t : Outline) : Text := t.lines.flatMap (· ++ ['\n'])

end Outline

end Display

namespace Expr
open Display

def outlineLabel : Expr → Text
  | .leaf l => Markup.styled "cyan" l
  | .group op .. => Markup.styled "bold" op.capitals.toList

/-- The children of a group are put on the stack so that the first of them is taken next. -/
def entries (todo : List (Nat × Expr)) : List Outline.Entry :=
  match todo with
  | [] => []
  | (depth, .leaf l) :: todo => ⟨depth, outlineLabel (.leaf l)⟩ :: entries todo
  | (depth, .group op first second rest) :: todo =>
    ⟨depth, outlineLabel (.group op first second rest)⟩ ::
      entries ((first :: second :: rest).map (fun t => (depth + 1, t)) ++ todo)
termination_by Tree.workAll (todo.map Prod.snd)
decreasing_by
  all_goals simp [Tree.workAll, Tree.work, Function.comp_def]
  all_goals omega

/-- The branches that show an expression: one for the whole of it. -/
def branches (e : Expr) : List Outline := (Outline.assemble (entries [(0, e)])).map Prod.snd

/-- An expression drawn under its own text. -/
def outline (text : Text) (e : Expr) : Outline := .branch (Markup.styled "bold" text) e.branches

end Expr

end Clearance
