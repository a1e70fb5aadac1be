import Clearance.Command.Arguments
import Clearance.Config.Load
import Clearance.Display.Grid
import Clearance.Display.Json
import Clearance.Display.Outline

/-! What a run of the program comes to, and how that is shown: an exit code and a text. -/
namespace Clearance.Command

/-- Why a command could not be carried out. -/
inductive Failure
  | refused (r : Refusal)
  | tooDeep
  | config (f : Config.Failure)

def Failure.message : Failure → String
  | refused r => r.message
  | tooDeep => "expression is nested too deeply to print as JSON"
  | config f => f.message

/-- Whether more is to be said after the message. -/
def Failure.isOpen : Failure → Bool
  | config (.unreadable _ .malformed) | config (.invalid _ _) => true
  | _ => false

/-- What ends a run that nobody foresaw. -/
inductive Crash
  | level (m : Level.Misfit)
  | config (f : Config.Failure)
  | refused (r : Refusal)

def Crash.message : Crash → String
  | level m => m.message
  | config f => f.message
  | refused r => r.message

/-- A policy and whether it is satisfied. -/
structure Verdict where
  name : String
  expression : String
  allowed : Bool
deriving DecidableEq, Repr

inductive Answer
  | help
  | misused (m : Misuse)
  | decided (allowed : Bool)
  | data (text : Text)
  | outline (tree : Display.Outline)
  | verdicts (rows : List Verdict)
  | version
  | failed (f : Failure)
  | crashed (c : Crash)

def word (allowed : Bool) : Text := (if allowed then "ALLOW" else "DENY").toList

def Verdict.cells (v : Verdict) : List Text :=
  [Display.Markup.escape v.name.toList, Display.Markup.escape v.expression.toList, word v.allowed]

def columns : List Display.Column :=
  [⟨"Policy".toList, false⟩, ⟨"Expression".toList, false⟩, ⟨"Result".toList, true⟩]

/-- The table of verdicts, a row for each. -/
def table (rows : List Verdict) : Text :=
  Display.Grid.draw "Policy Results".toList columns (rows.map Verdict.cells)

def Failure.text (f : Failure) : Text :=
  let line := Display.Markup.styled "red" ("Error: " ++ f.message).toList
  Text.join ['\n'] (Display.Line.ofText (Display.Markup.render line))

namespace Answer

/-- A denial has an exit code of its own, which crashes share. -/
def exitCode : Answer → Nat
  | decided false | crashed _ => 1
  | misused _ | failed _ => 2
  | _ => 0

/-- What is shown. A line that is left open is for the caller to end. -/
def text : Answer → Text
  | decided allowed => word allowed ++ ['\n']
  | data text => text ++ ['\n']
  | outline tree => tree.draw
  | verdicts rows => table rows
  | version => "label-authz version 0.1.0\n".toList
  | failed f => if f.isOpen then f.text else f.text ++ ['\n']
  | help | misused _ | crashed _ => []

end Answer

end Clearance.Command
