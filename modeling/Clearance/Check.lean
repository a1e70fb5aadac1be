import Clearance.Audit
import Clearance.Credentials
import Clearance.Draft.Evaluate
import Clearance.Parse

/-! Access checks: an expression text against the labels a caller holds. -/
namespace Clearance

/-- Reading an expression is recorded when it succeeds. -/
def Expr.parseAudited (source : Text) : Audited (Except Refusal Expr) :=
  match Expr.parse source with
  | .ok e => ⟨.ok e, [.parsed source]⟩
  | .error r => ⟨.error r, []⟩

@[simp] theorem Expr.parseAudited_value (source : Text) :
    (Expr.parseAudited source).value = Expr.parse source := by
  unfold Expr.parseAudited
  split <;> simp_all

namespace Check

/-- Checks an expression against whatever says which labels are held. A refused expression is
recorded and never decided. -/
def byHolding (held : Label → Bool) (expression : Text) : Audited (Except Refusal Bool) :=
  (Expr.parseAudited expression).andThen fun
    | .error r => ⟨.error r, [.refused expression r]⟩
    | .ok e => ⟨.ok (e.evaluate held), [.decided expression (e.evaluate held)]⟩

/-- The credentials are read before the expression. -/
def byCredentials (strict : Bool) (expression credentials : Text) :
    Audited (Except Refusal Bool) :=
  match Credentials.read strict credentials with
  | .error r => .quiet (.error r)
  | .ok labels => byHolding labels.holds expression

/-- Reads the credentials once, for any number of later checks. -/
def prepare (strict : Bool) (credentials : Text) : Audited (Except Refusal LabelSet) :=
  match Credentials.read strict credentials with
  | .error r => .quiet (.error r)
  | .ok labels => ⟨.ok labels, [.prepared labels.length]⟩

/-- A check with credentials that were read before. -/
def prepared (labels : LabelSet) (expression : Text) : Audited (Except Refusal Bool) :=
  byHolding labels.holds expression

end Check

end Clearance
