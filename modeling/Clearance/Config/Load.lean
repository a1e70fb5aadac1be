import Clearance.Config.Settings
import Clearance.Yaml.Fault

/-! Configuration read from a file, with the environment laid over it. -/
namespace Clearance.Config

/-- What a path leads to: nothing, a directory, or a file with a document or with none that can be
read. Some paths cannot be followed at all. A mapping at the top of a document is written out; the
others that are numbered come with it. -/
inductive Source
  | missing
  | nameTooLong
  | notAPath
  | directory
  | unreadable (fault : Yaml.Fault)
  | document (v : Item) (others : Nat → Entries := fun _ => [])

inductive Failure
  | missing (path : String)
  | nameTooLong (path : String)
  | notAPath
  | directory (path : String)
  | unreadable (path : String) (fault : Yaml.Fault)
  | notMapping (path : String) (found : Item)
  | misfit (found : Item)
  | oddKey
  | invalid (path : String) (issues : List Issue)

namespace Failure

/-- Failures that a command tells of. The others end its run. -/
def isForeseen : Failure → Bool
  | unreadable _ fault => fault.isForeseen
  | missing _ | notMapping _ _ | invalid _ _ => true
  | nameTooLong _ | notAPath | directory _ | misfit _ | oddKey => false

/-- What is told; what follows a colon at the end is told by `issues`. -/
def message : Failure → String
  | missing path => "Config file not found: " ++ path
  | nameTooLong path => "[Errno 36] File name too long: " ++ (Value.str path : Value).text
  | notAPath => "embedded null byte"
  | directory path => "[Errno 21] Is a directory: " ++ (Value.str path : Value).text
  | unreadable path fault => fault.message?.getD ("invalid YAML in " ++ path ++ ":")
  | notMapping path found =>
    "Config file must contain a mapping, got " ++ found.typeName ++ ": " ++ path
  | misfit found => Config.misfit found
  | oddKey => "keywords must be strings"
  | invalid path _ => "invalid config " ++ path ++ ":"

/-- All that is wrong with a document that was read. -/
def issues : Failure → List Issue
  | invalid _ issues => issues
  | _ => []

end Failure

/-- An empty document is an empty mapping. -/
def document (path : String) : Source → Except Failure Document
  | .missing => .error (.missing path)
  | .nameTooLong => .error (.nameTooLong path)
  | .notAPath => .error .notAPath
  | .directory => .error (.directory path)
  | .unreadable fault => .error (.unreadable path fault)
  | .document .null _ => .ok { top := [] }
  | .document (.map entries) others => .ok ⟨entries, others⟩
  | .document v _ => .error (.notMapping path v)

def isString : Item → Bool
  | .str _ | .codes _ => true
  | _ => false

/-- Sections are told by their names, so every key at the top has to be a string. -/
def prepare (env : Environment) (path : String) (source : Source) : Except Failure Document :=
  match document path source with
  | .error f => .error f
  | .ok doc =>
    match overlay env doc with
    | .error v => .error (.misfit v)
    | .ok doc => if doc.top.all (fun e => isString e.1) then .ok doc else .error .oddKey

def load (env : Environment) (path : String) (source : Source) :
    Audited (Except Failure Settings) :=
  match prepare env path source with
  | .error f => .quiet (.error f)
  | .ok doc => (validate doc).andThen fun
    | .ok settings => .quiet (.ok settings)
    | .error issues => .quiet (.error (.invalid path issues))

end Clearance.Config
