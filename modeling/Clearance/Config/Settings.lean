import Clearance.Check
import Clearance.Config.Overlay

/-! Settings, and the validation of a document against what they may be. -/
namespace Clearance.Config

structure Settings where
  level : String
  jsonLines : Bool
  strict : Bool
  policies : List (String × String)
deriving DecidableEq, Repr

/-- A step on the way from the top of a document to what is wrong in it. -/
inductive Step
  | key (name : String)
  | index (n : Int)
deriving DecidableEq, Repr

inductive Problem
  | notSection (name : String)
  | notMapping
  | notString
  | notText
  | notBoolean
  | unreadableBoolean
  | badPolicy (name : String) (reason : Refusal)
deriving DecidableEq, Repr

def Problem.name : Problem → String
  | notSection _ => "model_type"
  | notMapping => "dict_type"
  | notString => "string_type"
  | notText => "string_unicode"
  | notBoolean => "bool_type"
  | unreadableBoolean => "bool_parsing"
  | badPolicy _ _ => "value_error"

def Problem.message : Problem → String
  | notSection name => "Input should be a valid dictionary or instance of " ++ name
  | notMapping => "Input should be a valid dictionary"
  | notString => "Input should be a valid string"
  | notText => "Input should be a valid string, unable to parse raw data as a unicode string"
  | notBoolean => "Input should be a valid boolean"
  | unreadableBoolean => "Input should be a valid boolean, unable to interpret input"
  | badPolicy name reason =>
    "Value error, policy " ++ (Value.str name : Value).text ++ " is invalid: " ++
      reason.message

structure Issue where
  place : List Step
  problem : Problem
deriving DecidableEq, Repr

/-- Either a value or everything that is wrong. -/
abbrev Validated (α : Type) := Except (List Issue) α

/-- Both parts are validated, and all their issues are reported. -/
def both {α β : Type} (x : Validated α) (y : Validated β) : Validated (α × β) :=
  match x, y with
  | .ok a, .ok b => .ok (a, b)
  | .ok _, .error js => .error js
  | .error is, .ok _ => .error is
  | .error is, .error js => .error (is ++ js)

def issue {α : Type} (place : List Step) (problem : Problem) : Validated α :=
  .error [⟨place, problem⟩]

/-- Bytes are the text that they encode, if they encode one. -/
def decoded? (content : List UInt8) : Option String := String.fromUTF8? ⟨content.toArray⟩

def string (place : List Step) : Item → Validated String
  | .str s => .ok s
  | .bytes content =>
    match decoded? content with
    | some s => .ok s
    | none => issue place .notText
  | .codes _ => issue place .notText
  | _ => issue place .notString

def trueWords : List String := ["1", "on", "t", "true", "y", "yes"]

def falseWords : List String := ["0", "off", "f", "false", "n", "no"]

/-- Whether 64 bits hold an integer. -/
def isWord (n : Int) : Bool := -0x8000000000000000 ≤ n && n < 0x8000000000000000

/-- The words are in letters of either case. -/
def wordBoolean (place : List Step) (s : String) : Validated Bool :=
  let word := String.ofList (s.toList.map Char.toLower)
  if word ∈ trueWords then .ok true
  else if word ∈ falseWords then .ok false
  else issue place .unreadableBoolean

/-- Besides booleans, the numbers zero and one and some words are read as one. Other words are
unreadable, and so are other integers of 64 bits, though of floats the least of these is none. All
else is no boolean at all. -/
def boolean (place : List Step) : Item → Validated Bool
  | .bool b => .ok b
  | .str s => wordBoolean place s
  | .bytes content =>
    match decoded? content with
    | some s => wordBoolean place s
    | none => issue place .unreadableBoolean
  | .codes _ => issue place .notText
  | .int n =>
    if n = 0 then .ok false
    else if n = 1 then .ok true
    else issue place (if isWord n then .unreadableBoolean else .notBoolean)
  | .float x =>
    match x.toInt? with
    | some 0 => .ok false
    | some 1 => .ok true
    | some n => issue place (if isWord n && isWord (-n) then .unreadableBoolean else .notBoolean)
    | none => issue place .notBoolean
  | _ => issue place .notBoolean

/-- A key that is absent takes the value it has by default. -/
def entry {α : Type} (part key : String) (read : List Step → Item → Validated α) (default : α)
    (entries : Entries) : Validated α :=
  match Value.find? entries key with
  | none => .ok default
  | some v => read [.key part, .key key] v

def loggingSection (doc : Document) : Validated (String × Bool) :=
  match doc.section? "logging" with
  | none => .ok ("INFO", false)
  | some (some entries) =>
    both (entry "logging" "level" string "INFO" entries)
      (entry "logging" "json_output" boolean false entries)
  | some none => issue [.key "logging"] (.notSection "LoggingConfig")

def labelsSection (doc : Document) : Validated Bool :=
  match doc.section? "labels" with
  | none => .ok false
  | some (some entries) => entry "labels" "strict" boolean false entries
  | some none => issue [.key "labels"] (.notSection "LabelsConfig")

/-- From here on an integer is too long to be shown: it has more digits than are written. -/
def unshown : Nat := Binary.power 10 4300

/-- How a key is named in the place of an issue: a small number by itself, all else by its text. -/
def keyStep : Item → Step
  | .str s => .key s
  | .codes points => .key (Value.repaired points)
  | .bool b => .index (if b then 1 else 0)
  | .int n =>
    if isWord n then .index n
    else .key (if n.natAbs < unshown then toString n else "<unprintable int object>")
  | v => .key v.text

def policyEntry (e : Item × Item) : Validated (String × String) :=
  let place := [.key "policies", keyStep e.1]
  both (string (place ++ [.key "[key]"]) e.1) (string place e.2)

def policyEntries : Entries → Validated (List (String × String))
  | [] => .ok []
  | e :: es =>
    match both (policyEntry e) (policyEntries es) with
    | .ok (p, ps) => .ok (p :: ps)
    | .error is => .error is

/-- Of policies that are read under one name the last counts, in the place of the first. -/
def gathered (policies : List (String × String)) : List (String × String) :=
  policies.foldl enter []
where
  enter (known : List (String × String)) (policy : String × String) : List (String × String) :=
    match known with
    | [] => [policy]
    | p :: rest => if p.1 = policy.1 then (p.1, policy.2) :: rest else p :: enter rest policy

/-- The first policy whose expression is refused; those before it are read and recorded. -/
def firstRefused : List (String × String) → Audited (Option (String × Refusal))
  | [] => .quiet none
  | (name, expression) :: rest =>
    (Expr.parseAudited expression.toList).andThen fun
      | .ok _ => firstRefused rest
      | .error r => .quiet (some (name, r))

/-- Policies are read only once all their names and expressions are known to be strings. -/
def policiesSection (doc : Document) : Audited (Validated (List (String × String))) :=
  match doc.section? "policies" with
  | none => .quiet (.ok [])
  | some (some entries) =>
    match policyEntries entries with
    | .error is => .quiet (.error is)
    | .ok ps => (firstRefused (gathered ps)).andThen fun
      | none => .quiet (.ok (gathered ps))
      | some (name, r) => .quiet (issue [.key "policies"] (.badPolicy name r))
  | some none => .quiet (issue [.key "policies"] .notMapping)

/-- The settings that a document gives, or all that is wrong with it, section by section. -/
def validate (doc : Document) : Audited (Validated Settings) :=
  (policiesSection doc).andThen fun policies =>
    .quiet (match both (both (loggingSection doc) (labelsSection doc)) policies with
      | .ok (((level, jsonLines), strict), policies) => .ok ⟨level, jsonLines, strict, policies⟩
      | .error is => .error is)

end Clearance.Config
