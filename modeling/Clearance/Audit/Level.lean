import Clearance.Audit

/-! Which events are written: the threshold that options and environment ask for. -/
namespace Clearance

/-- Named values set outside the program. -/
abbrev Environment := List (String × String)

def Environment.find? (env : Environment) (name : String) : Option String := List.lookup name env

/-- What the name of a level stands for: a threshold, or what cannot be one, a text or the table of
styles. -/
inductive Level
  | rank (n : Int)
  | text (s : String)
  | styles
deriving DecidableEq, Repr

namespace Level

/-- Capitals are told by ASCII. The dotless i, the long s and the two joined forms of s and t are
the only other letters with ASCII capitals that occur in a name. -/
def capitals (c : Char) : List Char :=
  if c.toNat = 0x131 then ['I']
  else if c.toNat = 0x17f then ['S']
  else if c.toNat = 0xfb05 || c.toNat = 0xfb06 then ['S', 'T']
  else [c.toUpper]

/-- The format of plain lines. -/
def lineFormat : String := "%(levelname)s:%(name)s:%(message)s"

/-- The names in use. The format of plain lines is found among them as well, and the table of the
styles that formats are written in. -/
def names : List (String × Level) :=
  [("CRITICAL", .rank 50), ("FATAL", .rank 50), ("ERROR", .rank 40), ("WARNING", .rank 30),
    ("WARN", .rank 30), ("INFO", .rank 20), ("DEBUG", .rank 10), ("NOTSET", .rank 0),
    ("BASIC_FORMAT", .text lineFormat), ("_STYLES", .styles)]

/-- Names are looked up in capitals; one that is not found asks for the level of information. -/
def ofName (name : String) : Level :=
  (List.lookup (String.ofList (name.toList.flatMap capitals)) names).getD (.rank Severity.info.rank)

/-- The level that the environment asks for: by name, or else by the switch for debugging. -/
def ofEnvironment (env : Environment) : Level :=
  let name := (env.find? "LABEL_AUTHZ_LOG_LEVEL").getD ""
  let switch := (env.find? "LABEL_AUTHZ_DEBUG").getD "0"
  if name != "" then ofName name
  else if switch ∈ ["1", "true", "yes", "on"] then .rank Severity.debug.rank
  else .rank Severity.info.rank

/-- A level that is given counts before the switch for debugging, and that before the
environment. -/
def choose (given : Option Level) (debug : Bool) (env : Environment) : Level :=
  given.getD (if debug then .rank Severity.debug.rank else ofEnvironment env)

/-- Why a level is no threshold. -/
inductive Misfit
  | unknown (s : String)
  | notALevel
deriving DecidableEq, Repr

/-- Where a threshold is needed, anything else is refused. -/
def threshold : Level → Except Misfit Int
  | rank n => .ok n
  | text s => .error (.unknown s)
  | styles => .error .notALevel

/-- The table of styles as messages show it: each has a sign, a class and a format. -/
def stylesText : String :=
  let entry (sign className format : String) : String :=
    "'" ++ sign ++ "': (<class 'logging." ++ className ++ "'>, '" ++ format ++ "')"
  "\x7b" ++ ", ".intercalate
    [entry "%" "PercentStyle" lineFormat,
      entry "\x7b" "StrFormatStyle" "\x7blevelname\x7d:\x7bname\x7d:\x7bmessage\x7d",
      entry "$" "StringTemplateStyle" "$\x7blevelname\x7d:$\x7bname\x7d:$\x7bmessage\x7d"] ++ "\x7d"

def Misfit.message : Misfit → String
  | unknown s => "Unknown level: " ++ (Value.str s : Value).text
  | notALevel => "Level not an integer or a valid string: " ++ stylesText

example : ofName "warn\u0131ng" = .rank 30 := by decide
example : ofName "" = .rank 20 := by decide

end Level

end Clearance
