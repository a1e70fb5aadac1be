import Clearance.Refusal
import Clearance.Value

/-! The audit trail: what is recorded of every reading and every decision. -/
namespace Clearance

inductive Severity
  | debug | info | warning
deriving DecidableEq, Repr

/-- Greater is more severe. -/
def Severity.rank : Severity → Int
  | debug => 10
  | info => 20
  | warning => 30

def Severity.name : Severity → String
  | debug => "debug"
  | info => "info"
  | warning => "warning"

inductive Event
  | parsed (source : Text)
  | refused (expression : Text) (reason : Refusal)
  | decided (expression : Text) (allowed : Bool)
  | prepared (labels : Nat)
  | policiesLoaded (path : String) (count : Nat)
deriving DecidableEq, Repr

namespace Event

def name : Event → String
  | parsed _ => "expression_parsed"
  | refused _ _ => "authorization_expression_invalid"
  | decided _ _ => "authorization_checked"
  | prepared _ => "authorization_check_prepared"
  | policiesLoaded _ _ => "policies_loaded"

def severity : Event → Severity
  | refused _ _ => .warning
  | policiesLoaded _ _ => .info
  | _ => .debug

/-- The part of the system that records the event. -/
def channel : Event → String
  | parsed _ => "authz.parser"
  | policiesLoaded _ _ => "authz.cli"
  | _ => "authz.check"

def details : Event → List (String × Value)
  | parsed source => [("source", .str (String.ofList source))]
  | refused expression reason =>
    [("expression", .str (String.ofList expression)), ("error", .str reason.message),
      ("error_type", .str reason.name)]
  | decided expression allowed =>
    [("expression", .str (String.ofList expression)), ("allowed", .bool allowed)]
  | prepared labels => [("label_count", .int labels)]
  | policiesLoaded path count => [("path", .str path), ("count", .int count)]

/-- The line that is written for an event. -/
def record (e : Event) : List (String × Value) :=
  e.details ++ [("event", .str e.name), ("logger", .str e.channel), ("level", .str e.severity.name)]

/-- Only events at least as severe as the threshold are written. -/
def passes (threshold : Int) (e : Event) : Bool := threshold ≤ e.severity.rank

end Event

/-- A computation together with the events it records, in order. -/
structure Audited (α : Type) where
  value : α
  events : List Event
deriving Repr

namespace Audited
variable {α β : Type}

def quiet (a : α) : Audited α := ⟨a, []⟩

def andThen (x : Audited α) (f : α → Audited β) : Audited β :=
  let y := f x.value
  ⟨y.value, x.events ++ y.events⟩

@[simp] theorem andThen_value (x : Audited α) (f : α → Audited β) :
    (x.andThen f).value = (f x.value).value := rfl

/-- Runs computations one after the other. -/
def collect : List (Audited α) → Audited (List α)
  | [] => quiet []
  | x :: xs => x.andThen fun a => (collect xs).andThen fun as => quiet (a :: as)

/-- The events that are written at a threshold. -/
def written (threshold : Int) (x : Audited α) : List Event :=
  x.events.filter (Event.passes threshold)

end Audited

end Clearance
