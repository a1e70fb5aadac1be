import Clearance.Tree
import Clearance.Value

/-! Trees put together from outside data, in which any value may stand where a node should. -/
namespace Clearance

inductive Entry
  | label (text : Label)
  | foreign (value : Value)
deriving Inhabited, Repr

abbrev Draft := Tree Entry

/-- What walking onto a foreign value is told. -/
def Value.notANode (v : Value) : String := "Not an expression node: " ++ v.text

/-- An expression is a draft without foreign values. -/
def Expr.draft (e : Expr) : Draft := e.map .label

namespace Draft

mutual
/-- The expression a draft is, if it holds no foreign value. -/
def expr? : Draft → Option Expr
  | .leaf (.label l) => some (.leaf l)
  | .leaf (.foreign _) => none
  | .group op first second rest => do
    let s ← expr? first
    let t ← expr? second
    let r ← exprs? rest
    pure (.group op s t r)

def exprs? : List Draft → Option (List Expr)
  | [] => some []
  | t :: ts => do
    let e ← expr? t
    let es ← exprs? ts
    pure (e :: es)
end

end Draft

end Clearance
