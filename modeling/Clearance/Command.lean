import Clearance.Check
import Clearance.Command.Answer
import Clearance.Draft.Image
import Clearance.Draft.Render

/-! Commands carried out on files and an environment: what a run answers, and the events it
writes. -/
namespace Clearance.Command

/-- Where events go: to lines of JSON if they are asked for, from a threshold on. -/
structure Log where
  threshold : Int
  jsonLines : Bool
deriving DecidableEq, Repr

namespace Log

/-- A log is refused only for a level that is no threshold. -/
def ofLevel (level : Level) (jsonLines : Bool) : Except Crash Log :=
  match level.threshold with
  | .ok n => .ok ⟨n, jsonLines⟩
  | .error m => .error (.level m)

def keep (log : Log) (events : List Event) : List Event :=
  if log.jsonLines then events.filter (Event.passes log.threshold) else []

end Log

structure Outcome where
  answer : Answer
  events : List Event

def checked : Except Refusal Bool → Answer
  | .ok allowed => .decided allowed
  | .error r => .failed (.refused r)

/-- The text of an expression and its image. -/
def payload (e : Expr) : Value :=
  .map [(.str "expression", .str (String.ofList e.render)), (.str "tree", e.image)]

def parsed (asJson : Bool) : Except Refusal Expr → Answer
  | .error r => .failed (.refused r)
  | .ok e =>
    if asJson then
      match Display.Json.print? (payload e) with
      | some text => .data text
      | none => .failed .tooDeep
    else .outline (e.outline e.render)

/-- Every policy is read again and decided, in order. -/
def judge (labels : LabelSet) : List (String × String) → Audited (Except Refusal (List Verdict))
  | [] => .quiet (.ok [])
  | (name, expression) :: rest =>
    (Expr.parseAudited expression.toList).andThen fun
      | .error r => .quiet (.error r)
      | .ok e => (judge labels rest).andThen fun
        | .error r => .quiet (.error r)
        | .ok verdicts => .quiet (.ok (⟨name, expression, e.evaluate labels.holds⟩ :: verdicts))

/-- Options in front decide about the log; without any of them the settings do. -/
def relog (front : Front) (log : Log) (settings : Config.Settings) : Except Crash Log :=
  if front.debug || front.jsonLogs then .ok log
  else Log.ofLevel (.ofName settings.level) settings.jsonLines

/-- Decides all policies of a configuration under the settings it gives. -/
def decideAll (log : Log) (credentials : Text) (path : String) (settings : Config.Settings) :
    Outcome :=
  match Credentials.read settings.strict credentials with
  | .error r => ⟨.failed (.refused r), []⟩
  | .ok labels =>
    let verdicts := judge labels settings.policies
    ⟨match verdicts.value with
      | .ok rows => .verdicts rows
      | .error r => .crashed (.refused r),
    log.keep (.policiesLoaded path settings.policies.length :: verdicts.events)⟩

def policies (front : Front) (log : Log) (env : Environment) (credentials : Text) (path : String)
    (source : Config.Source) : Outcome :=
  let loaded := Config.load env path source
  let before := log.keep loaded.events
  match loaded.value with
  | .error f => ⟨if f.isForeseen then .failed (.config f) else .crashed (.config f), before⟩
  | .ok settings =>
    match relog front log settings with
    | .error c => ⟨.crashed c, before⟩
    | .ok log =>
      let outcome := decideAll log credentials path settings
      ⟨outcome.answer, before ++ outcome.events⟩

/-- Carries out a command. Files are known by what a path leads to. -/
def perform (files : Path → Config.Source) (env : Environment) (front : Front) (log : Log) :
    Request → Outcome
  | .check expression credentials strict =>
    let r := Check.byCredentials strict expression credentials
    ⟨checked r.value, log.keep r.events⟩
  | .parse expression asJson =>
    let r := Expr.parseAudited expression
    ⟨parsed asJson r.value, log.keep r.events⟩
  | .policies credentials path =>
    policies front log env credentials path.toString (files path)
  | .version => ⟨.version, []⟩

/-- A run from the words of the command line. The log is set up once a command is known, before the
words given to it are read. -/
def run (files : Path → Config.Source) (env : Environment) (words : List Text) : Outcome :=
  match Front.read words with
  | .error m => ⟨.misused m, []⟩
  | .ok .help => ⟨.help, []⟩
  | .ok (.request front) =>
    match Log.ofLevel (.choose none front.debug env) front.jsonLogs with
    | .error c => ⟨.crashed c, []⟩
    | .ok log =>
      match Request.read front.verb front.rest with
      | .error m => ⟨.misused m, []⟩
      | .ok .help => ⟨.help, []⟩
      | .ok (.request r) => perform files env front log r

end Clearance.Command
