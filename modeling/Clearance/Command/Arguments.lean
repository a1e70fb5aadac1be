import Clearance.Path

/-! The words of a command line: options before the command, the command, and what is given to
it. -/
namespace Clearance.Command

inductive Opt
  | help | debug | jsonLogs | auth | strict | json | config
deriving DecidableEq, Repr

namespace Opt

def name : Opt → String
  | help => "--help"
  | debug => "--debug"
  | jsonLogs => "--json-logs"
  | auth => "--auth"
  | strict => "--strict"
  | json => "--json"
  | config => "--config"

/-- Only options with a value have a letter as well. -/
def letter? : Opt → Option Char
  | auth => some 'a'
  | config => some 'c'
  | _ => none

def takesValue : Opt → Bool
  | auth | config => true
  | _ => false

end Opt

/-- Ways to call the program wrongly. -/
inductive Misuse
  | unknownOption (word : Text)
  | unwantedValue (o : Opt)
  | missingValue (o : Opt)
  | missingOption (o : Opt)
  | missingArgument
  | extraArgument (word : Text)
  | missingCommand
  | unknownCommand (word : Text)
deriving DecidableEq, Repr

def Misuse.message : Misuse → String
  | unknownOption word => "no such option: " ++ String.ofList word
  | unwantedValue o => "option " ++ o.name ++ " takes no value"
  | missingValue o => "option " ++ o.name ++ " needs a value"
  | missingOption o => "missing option " ++ o.name
  | missingArgument => "missing argument"
  | extraArgument word => "unexpected argument: " ++ String.ofList word
  | missingCommand => "missing command"
  | unknownCommand word => "no such command: " ++ String.ofList word

/-- What one word says of an option: all there is to say, or that its value is the next word. -/
inductive Mention
  | whole (o : Opt) (value : Option Text)
  | awaits (o : Opt)
deriving DecidableEq, Repr

/-- A value follows an equals sign after the name of an option, or its letter directly. -/
def mention (known : List Opt) (word : Text) : Except Misuse Mention :=
  let name := word.takeWhile (· != '=')
  match known.find? (fun o => o.name.toList == name) with
  | some o =>
    match word.drop name.length with
    | [] => .ok (if o.takesValue then .awaits o else .whole o none)
    | _ :: value => if o.takesValue then .ok (.whole o (some value)) else .error (.unwantedValue o)
  | none =>
    match word with
    | '-' :: c :: value =>
      match known.find? (fun o => o.letter? == some c) with
      | some o => .ok (if value = [] then .awaits o else .whole o (some value))
      | none => .error (.unknownOption word)
    | _ => .error (.unknownOption word)

/-- The options found among some words, in order, and the words that are left. -/
structure Words where
  options : List (Opt × Option Text)
  plain : List Text
deriving DecidableEq, Repr

namespace Words

def ofPlain (plain : List Text) : Words := ⟨[], plain⟩

def addOption (o : Opt) (value : Option Text) (ws : Words) : Words :=
  ⟨(o, value) :: ws.options, ws.plain⟩

def addPlain (word : Text) (ws : Words) : Words := ⟨ws.options, word :: ws.plain⟩

def has (ws : Words) (o : Opt) : Bool := ws.options.any fun given => given.1 == o

/-- Of several values for an option the last one counts. -/
def value? (ws : Words) (o : Opt) : Option Text :=
  (ws.options.filterMap fun given => if given.1 = o then given.2 else none).getLast?

end Words

/-- A dash with anything after it. -/
def isMention : Text → Bool
  | '-' :: _ :: _ => true
  | _ => false

def dashes : Text := ['-', '-']

/-- Reads options up to two dashes that stand alone. Words that mention none are left for the
caller, who may ask to stop at the first of them. -/
def readWords (known : List Opt) (stopAtPlain : Bool) : List Text → Except Misuse Words
  | [] => .ok (.ofPlain [])
  | word :: rest =>
    if word = dashes then .ok (.ofPlain rest)
    else if isMention word then
      match mention known word with
      | .error m => .error m
      | .ok (.whole o value) => (readWords known stopAtPlain rest).map (.addOption o value)
      | .ok (.awaits o) =>
        match rest with
        | [] => .error (.missingValue o)
        | value :: rest => (readWords known stopAtPlain rest).map (.addOption o (some value))
    else if stopAtPlain then .ok (.ofPlain (word :: rest))
    else (readWords known stopAtPlain rest).map (.addPlain word)

inductive Verb
  | check | parse | policies | version
deriving DecidableEq, Repr

namespace Verb

def all : List Verb := [check, parse, policies, version]

def name : Verb → String
  | check => "check"
  | parse => "parse"
  | policies => "policies"
  | version => "version"

def options : Verb → List Opt
  | check => [.help, .auth, .strict]
  | parse => [.help, .json]
  | policies => [.help, .auth, .config]
  | version => [.help]

end Verb

/-- Either a request for help or what was asked. -/
inductive Asked (α : Type)
  | help
  | request (a : α)
deriving DecidableEq, Repr

/-- What stands in front: options for the whole run, the command, and the words left for it. -/
structure Front where
  debug : Bool
  jsonLogs : Bool
  verb : Verb
  rest : List Text
deriving DecidableEq, Repr

def Front.read (words : List Text) : Except Misuse (Asked Front) := do
  let ws ← readWords [.help, .debug, .jsonLogs] true words
  if ws.has .help then return .help
  match ws.plain with
  | [] => throw .missingCommand
  | word :: rest =>
    match Verb.all.find? (fun v => v.name.toList == word) with
    | some verb => return .request ⟨ws.has .debug, ws.has .jsonLogs, verb, rest⟩
    | none => throw (.unknownCommand word)

/-- A command with all that it needs. -/
inductive Request
  | check (expression credentials : Text) (strict : Bool)
  | parse (expression : Text) (asJson : Bool)
  | policies (credentials : Text) (path : Path)
  | version
deriving DecidableEq, Repr

def noArgument (ws : Words) : Except Misuse Unit :=
  match ws.plain with
  | [] => .ok ()
  | word :: _ => .error (.extraArgument word)

def oneArgument (ws : Words) : Except Misuse Text :=
  match ws.plain with
  | [] => .error .missingArgument
  | [word] => .ok word
  | _ :: word :: _ => .error (.extraArgument word)

def required (ws : Words) (o : Opt) : Except Misuse Text :=
  match ws.value? o with
  | some value => .ok value
  | none => .error (.missingOption o)

/-- Where policies are looked for unless another path is given. -/
def defaultConfig : Path := ⟨[], ["config".toList, "default.yaml".toList]⟩

/-- Options are told from words anywhere after the command. -/
def Request.read (verb : Verb) (words : List Text) : Except Misuse (Asked Request) := do
  let ws ← readWords verb.options false words
  if ws.has .help then return .help
  match verb with
  | .check => return .request (.check (← oneArgument ws) (← required ws .auth) (ws.has .strict))
  | .parse => return .request (.parse (← oneArgument ws) (ws.has .json))
  | .policies =>
    noArgument ws
    let credentials ← required ws .auth
    return .request (.policies credentials ((ws.value? .config).elim defaultConfig Path.ofText))
  | .version =>
    noArgument ws
    return .request .version

example : (Request.read .check ["-a=x".toList, "--".toList, "-a".toList]).toOption =
    some (.request (.check "-a".toList "=x".toList false)) := by decide

end Clearance.Command
