import Clearance.Audit.Level
import Clearance.Value

/-! The environment laid over a configuration document. -/
namespace Clearance.Config

/-- The mapping at the top of a document has number zero; the others that are numbered follow. What
is written into a numbered mapping is there at every place where it stands. -/
structure Document where
  top : Entries
  others : Nat → Entries := fun _ => []

namespace Document

def mapping (doc : Document) : Nat → Entries
  | 0 => doc.top
  | n + 1 => doc.others n

def setMapping (doc : Document) (number : Nat) (entries : Entries) : Document :=
  match number with
  | 0 => { doc with top := entries }
  | n + 1 => { doc with others := fun m => if m = n then entries else doc.others m }

/-- The entries of a mapping, wherever it is written. -/
def entries? (doc : Document) : Item → Option Entries
  | .map entries => some entries
  | .shared n => some (doc.mapping n)
  | _ => none

/-- What stands in a section, if it is there and if it is a mapping. -/
def section? (doc : Document) (part : String) : Option (Option Entries) :=
  (Value.find? doc.top part).map doc.entries?

@[simp] theorem mapping_setMapping_self (doc : Document) (n : Nat) (entries : Entries) :
    (doc.setMapping n entries).mapping n = entries := by
  cases n with
  | zero => rfl
  | succ n => simp [setMapping, mapping]

theorem mapping_setMapping_of_ne (doc : Document) {n m : Nat} (h : m ≠ n) (entries : Entries) :
    (doc.setMapping n entries).mapping m = doc.mapping m := by
  cases n with
  | zero =>
    cases m with
    | zero => contradiction
    | succ m => rfl
  | succ n =>
    cases m with
    | zero => rfl
    | succ m => simpa [setMapping, mapping] using fun hm => absurd (congrArg Nat.succ hm) h

@[simp] theorem setMapping_mapping (doc : Document) (n : Nat) :
    doc.setMapping n (doc.mapping n) = doc := by
  cases n with
  | zero => rfl
  | succ n =>
    simp only [setMapping, mapping]
    congr
    funext m
    split
    · next h => rw [h]
    · rfl

end Document

/-- A variable, and the section and key whose value it takes the place of. -/
structure Override where
  variableName : String
  part : String
  key : String
  isSwitch : Bool
deriving DecidableEq, Repr

/-- Overrides apply in this order. -/
def overrides : List Override :=
  [⟨"LABEL_AUTHZ_LOGGING_LEVEL", "logging", "level", false⟩,
    ⟨"LABEL_AUTHZ_LOGGING_JSON_OUTPUT", "logging", "json_output", true⟩,
    ⟨"LABEL_AUTHZ_LABELS_STRICT", "labels", "strict", true⟩]

/-- A switch is on for four words, in letters of either case, and off for all else. -/
def switchedOn (text : String) : Bool :=
  String.ofList (text.toList.map Char.toLower) ∈ ["1", "true", "yes", "on"]

def Override.value (o : Override) (text : String) : Item :=
  if o.isSwitch then .bool (switchedOn text) else .str text

/-- What is said of a section that cannot take a key. -/
def misfit : Item → String
  | .list _ => "list indices must be integers or slices, not str"
  | v => "'" ++ v.fullTypeName ++ "' object does not support item assignment"

/-- A section that is missing or null becomes a mapping; any other that is no mapping is refused. A
section that stands in other places as well takes the key there too. -/
def Override.apply (o : Override) (doc : Document) (text : String) : Except Item Document :=
  match Value.find? doc.top o.part with
  | none | some .null =>
    .ok { doc with top := Value.put doc.top o.part (.map [(.str o.key, o.value text)]) }
  | some (.map entries) =>
    .ok { doc with
      top := Value.put doc.top o.part (.map (Value.put entries o.key (o.value text))) }
  | some (.shared n) =>
    .ok (doc.setMapping n (Value.put (doc.mapping n) o.key (o.value text)))
  | some v => .error v

def overlayWith (env : Environment) : List Override → Document → Except Item Document
  | [], doc => .ok doc
  | o :: os, doc =>
    match env.find? o.variableName with
    | none => overlayWith env os doc
    | some text => do
      let doc ← o.apply doc text
      overlayWith env os doc

/-- The document with every variable that is set in force. -/
def overlay (env : Environment) (doc : Document) : Except Item Document :=
  overlayWith env overrides doc

end Clearance.Config
