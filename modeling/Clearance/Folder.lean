import Clearance.Config.Load
import Clearance.Path
import Clearance.Yaml.Resolve

/-! The files of one directory, by their paths below it. -/
namespace Clearance

structure File where
  name : Path
  text : Text
deriving Repr

abbrev Folder := List File

/-- The document that was read. A mapping at the top that has a number has number zero. -/
def Config.Source.ofReading (r : Yaml.Reading) : Config.Source :=
  .document (match r.value with | .shared n => .map (r.numbered n) | v => v)
    fun n => r.numbered (n + 1)

/-- A file holds the document that its text describes, if it describes one. -/
def Config.Source.ofText (text : Text) : Config.Source :=
  match Yaml.read text with
  | .ok r => .ofReading r
  | .error fault => .unreadable fault

namespace Folder

/-- What lies under some parts: a file, or a directory if files lie below it. -/
def lookup (folder : Folder) (parts : List Text) : Config.Source :=
  match folder.find? (fun f => f.name.parts == parts) with
  | some f => .ofText f.text
  | none =>
    if parts = [] ∨ folder.any (fun f => parts.isPrefixOf f.name.parts) then .directory
    else .missing

/-- Outside the folder nothing is known but the directories above it. -/
def above (parts : List Text) : Config.Source :=
  match parts.dropWhile (· == Path.parent) with
  | [] => .directory
  | part :: _ => if Path.isTooLong Path.longestPart part then .nameTooLong else .missing

/-- Follows a path part by part; whatever is passed on the way has to be a directory. -/
def follow (folder : Folder) (passed : List Text) : List Text → Config.Source
  | [] => lookup folder passed
  | part :: rest =>
    match lookup folder passed with
    | .directory =>
      if part = Path.parent then
        if passed = [] then above rest
        else follow folder passed.dropLast rest
      else if Path.isTooLong Path.longestPart part then .nameTooLong
      else follow folder (passed ++ [part]) rest
    | _ => .missing

/-- The directories that a system has at its root. -/
def systemNames : List String :=
  ["bin", "boot", "dev", "etc", "home", "lib", "media", "mnt", "opt", "proc", "root", "run", "sbin",
    "srv", "sys", "tmp", "usr", "var"]

/-- From the root only the directories there are known, and the device that is always empty. -/
def fromRoot (passed : List Text) : List Text → Config.Source
  | [] => .directory
  | part :: rest =>
    if part = Path.parent then fromRoot passed.dropLast rest
    else if passed = [] ∧ String.ofList part ∈ systemNames then fromRoot [part] rest
    else if passed = ["dev".toList] ∧ part = "null".toList ∧ rest = [] then .document .null
    else if Path.isTooLong Path.longestPart part then .nameTooLong
    else .missing

def find (folder : Folder) (path : Path) : Config.Source :=
  if !path.isSound then .notAPath
  else if Path.isTooLong Path.longest path.text then .nameTooLong
  else if path.root = [] then follow folder [] path.parts
  else fromRoot [] path.parts

end Folder

end Clearance
