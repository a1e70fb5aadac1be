import Clearance.Command
import Clearance.Folder

/-! The command line: words, environment and files in; text, events and an exit code out. -/
namespace Clearance.Main
open Command

def variableNames : List String :=
  ["LABEL_AUTHZ_LOG_LEVEL", "LABEL_AUTHZ_DEBUG"] ++
    Config.overrides.map Config.Override.variableName

def environment : IO Environment := do
  let found ← variableNames.mapM fun name => do
    return (← IO.getEnv name).map fun text => (name, text)
  return found.filterMap id

/-- The error code of reading a directory as a file. -/
def isDirectory : UInt32 := 21

/-- What a path leads to, for the one command that reads a file. -/
def source (path : Path) : IO Config.Source := do
  try
    return .ofText (← IO.FS.readFile path.toString).toList
  catch
    | .noFileOrDirectory .. => return .missing
    | .inappropriateType _ code _ =>
      return if code = isDirectory then .directory else .missing
    | e => throw e

def wanted (words : List Text) : Option Path :=
  match Front.read words with
  | .ok (.request front) =>
    match Request.read front.verb front.rest with
    | .ok (.request (.policies _ path)) => some path
    | _ => none
  | _ => none

def usage : String :=
  "\n".intercalate
    ["usage: label-authz [--debug] [--json-logs] COMMAND",
      "  check EXPRESSION --auth LABELS [--strict]",
      "  parse EXPRESSION [--json]",
      "  policies --auth LABELS [--config FILE]",
      "  version"]

def step : Config.Step → String
  | .key name => name
  | .index n => toString n

def issue (i : Config.Issue) : String :=
  "  " ++ ".".intercalate (i.place.map step) ++ ": " ++ i.problem.message

/-- What is said beside the answer, on the channel for errors. -/
def remarks : Answer → List String
  | .help => [usage]
  | .misused m => [m.message, usage]
  | .crashed c => [c.message]
  | _ => []

def issues : Answer → List Config.Issue
  | .failed (.config f) => f.issues
  | _ => []

def eventLine (e : Event) : String :=
  String.ofList (Display.Json.line (.map (e.record.map fun (k, v) => (.str k, v))))

/-- Runs a command line and returns its exit code. -/
def execute (words : List Text) : IO Nat := do
  let found ← match wanted words with
    | some path => source path
    | none => pure Config.Source.missing
  let outcome := run (fun _ => found) (← environment) words
  let errors ← IO.getStderr
  for e in outcome.events do errors.putStrLn (eventLine e)
  let text := String.ofList outcome.answer.text
  IO.print text
  if !text.isEmpty && !text.endsWith "\n" then IO.println ""
  for i in issues outcome.answer do IO.println (issue i)
  for r in remarks outcome.answer do errors.putStrLn r
  return outcome.answer.exitCode

end Clearance.Main

def main (args : List String) : IO UInt32 := do
  let code ← Clearance.Main.execute (args.map String.toList)
  return code.toUInt32
