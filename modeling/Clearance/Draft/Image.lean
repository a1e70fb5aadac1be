import Clearance.Draft

/-! Trees as plain data. Groups are taken off a stack of work, and their parts put together once
all have been seen, so the depth of a tree is not bounded by the depth of calls. -/
namespace Clearance

namespace Value

def ofLabel (l : Label) : Value :=
  .map [(.str "type", .str "access_token"), (.str "label", .str (String.ofList l))]

def ofGroup (op : Connective) (children : List Value) : Value :=
  .map [(.str "type", .str (match op with | .and => "and" | .or => "or")),
    (.str "children", .list children)]

end Value

namespace Draft

/-- A child as its group sees it: a label, or a group whose own children are recorded elsewhere. -/
inductive Slot
  | label (l : Label)
  | group

def slot : Draft → Except Value Slot
  | .leaf (.label l) => .ok (.label l)
  | .leaf (.foreign v) => .error v
  | .group .. => .ok .group

/-- The children in order; the first foreign one is refused. -/
def slots : List Draft → Except Value (List Slot)
  | [] => .ok []
  | t :: ts => do
    let s ← slot t
    let rest ← slots ts
    pure (s :: rest)

/-- A group and what its direct children are. -/
structure Record where
  op : Connective
  slots : List Slot

/-- The groups among some children, with the children of each. -/
def groups : List Draft → List (Connective × List Draft)
  | [] => []
  | .leaf _ :: ts => groups ts
  | .group op first second rest :: ts => (op, first :: second :: rest) :: groups ts

/-- The steps left to a survey. -/
def backlog : List (Connective × List Draft) → Nat
  | [] => 0
  | g :: todo => 1 + Tree.workAll g.2 + backlog todo

theorem backlog_append (gs hs : List (Connective × List Draft)) :
    backlog (gs ++ hs) = backlog gs + backlog hs := by
  induction gs with
  | nil => simp [backlog]
  | cons g gs ih => simp [backlog, ih, Nat.add_assoc]

theorem backlog_reverse (gs : List (Connective × List Draft)) :
    backlog gs.reverse = backlog gs := by
  induction gs with
  | nil => rfl
  | cons g gs ih => simp [backlog_append, backlog, ih, Nat.add_comm]

theorem backlog_groups_le (ts : List Draft) : backlog (groups ts) ≤ Tree.workAll ts := by
  fun_induction groups ts with
  | case1 => simp [backlog]
  | case2 a ts ih => simp only [Tree.workAll, Tree.work]; omega
  | case3 op first second rest ts ih =>
    simp only [backlog, Tree.workAll, Tree.work]
    omega

/-- All direct children of a group are looked at before any of them is entered; of the groups
waiting, the one put there last is taken first. The record of the group seen last comes first. -/
def survey (todo : List (Connective × List Draft)) (records : List Record) :
    Except Value (List Record) :=
  match todo with
  | [] => .ok records
  | (op, children) :: todo =>
    match slots children with
    | .error v => .error v
    | .ok found => survey ((groups children).reverse ++ todo) (⟨op, found⟩ :: records)
termination_by backlog todo
decreasing_by
  have h := backlog_groups_le children
  simp only [backlog_append, backlog_reverse, backlog]
  omega

/-- Fills the slots from right to left with the groups finished, the one finished last first. -/
def Record.fill (slots : List Slot) (finished : List Value) : List Value × List Value :=
  match slots with
  | [] => ([], finished)
  | .label l :: rest =>
    let (made, left) := fill rest finished
    (Value.ofLabel l :: made, left)
  | .group :: rest =>
    match fill rest finished with
    | (made, v :: left) => (v :: made, left)
    | (made, []) => (made, [])

/-- Each record takes its groups from those finished and is finished itself. -/
def assemble (records : List Record) (finished : List Value) : List Value :=
  match records with
  | [] => finished
  | ⟨op, slots⟩ :: rest =>
    let (made, left) := Record.fill slots finished
    assemble rest (Value.ofGroup op made :: left)

/-- The image of a draft, or the foreign value that is come upon first. -/
def image : Draft → Except Value Value
  | .leaf (.label l) => .ok (Value.ofLabel l)
  | .leaf (.foreign v) => .error v
  | .group op first second rest => do
    let records ← survey [(op, first :: second :: rest)] []
    pure ((assemble records []).headD .null)

end Draft

/-- The image of an expression. -/
def Expr.image (e : Expr) : Value :=
  match e.draft.image with
  | .ok v => v
  | .error _ => .null

end Clearance
