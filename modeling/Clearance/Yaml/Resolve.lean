import Clearance.Value
import Clearance.Yaml.Bytes
import Clearance.Yaml.Node
import Clearance.Yaml.Number
import Clearance.Yaml.Timestamp

/-! The values that nodes stand for. Plain scalars are read as what they look like. -/
namespace Clearance.Yaml

namespace Scalar

def nulls : List String := ["", "~", "null", "Null", "NULL"]

def trues : List String := ["yes", "Yes", "YES", "true", "True", "TRUE", "on", "On", "ON"]

def falses : List String := ["no", "No", "NO", "false", "False", "FALSE", "off", "Off", "OFF"]

/-- A boolean by its word, in letters of either case. -/
def boolean (s : Text) : Except Fault Bool :=
  let word := s.map Char.toLower
  if String.ofList word ∈ ["yes", "true", "on"] then .ok true
  else if String.ofList word ∈ ["no", "false", "off"] then .ok false
  else .error (.noBoolean word)

/-- A moment that there is. -/
def moment (s : Text) : Except Fault Moment :=
  match Timestamp.read? s with
  | none => .error .noMoment
  | some m =>
    match m.fault? with
    | none => .ok m
    | some f => .error (.offCalendar f)

/-- A plain scalar that looks like nothing else is a string; the default key is no value. -/
def plainValue (s : Text) : Except Fault Item :=
  let word := String.ofList s
  if word ∈ nulls then .ok .null
  else if word ∈ trues then .ok (.bool true)
  else if word ∈ falses then .ok (.bool false)
  else if word = "=" ∨ word = "<<" then .error .malformed
  else if Number.looksInteger s then (Number.integer s).map .int
  else if Number.looksFloat s then (Number.float s).map .float
  else if Timestamp.isPlain s then (moment s).map .moment
  else .ok (.str word)

/-- Without a known form a scalar is what its text is. -/
def Content.value : Content → Item
  | text s => .str (String.ofList s)
  | codes points => .codes points

end Scalar

namespace Node

/-- The kind of value a tag asks for; a lone exclamation mark leaves it open. -/
def kind? : Option String → Option (Option String)
  | none => some none
  | some name =>
    if name = "!" then some none
    else if name.startsWith "tag:yaml.org,2002:" then some (some (name.drop 18).toString)
    else none

/-- The value of a scalar by the kind that its tag asks for. -/
def scalarValue (tag : Option String) (content : Scalar.Content) (isPlain : Bool) :
    Except Fault Item :=
  match kind? tag, content with
  | some none, .text s =>
    if isPlain || tag.isSome then Scalar.plainValue s else .ok content.value
  | some none, .codes _ | some (some "str"), _ => .ok content.value
  | some (some "null"), _ => .ok .null
  | some (some "int"), .text s => (Number.integer s).map .int
  | some (some "float"), .text s => (Number.float s).map .float
  | some (some "bool"), .text s => (Scalar.boolean s).map .bool
  | some (some "timestamp"), .text s => (Scalar.moment s).map .moment
  | some (some "binary"), .text s =>
    (Bytes.read? s).elim (.error .malformed) fun bs => .ok (.bytes bs)
  | _, _ => .error .malformed

/-- Whether a node is of a kind, by its tag or, with no tag, as the plain word for it. -/
def isOf (name : String) (word : Text) : Node → Bool
  | scalar tag content isPlain =>
    match kind? tag with
    | some none => (isPlain || tag.isSome) && content == .text word
    | kind => kind == some (some name)
  | sequence tag _ | mapping tag _ _ => kind? tag == some (some name)
  | within _ => false

/-- A key that asks for another mapping's entries to be merged in. -/
def isMerge : Node → Bool := isOf "merge" ['<', '<']

/-- A key that is its text, though it is no value. -/
def isDefault : Node → Bool := isOf "value" ['=']

def isKey : Item → Bool
  | .list _ | .set _ | .map _ | .shared _ => false
  | _ => true

end Node

/-- Faults by how deep in a document they are met. Those of one depth are in the order of the
document, and come before all that are deeper. -/
abbrev Faults := List (List Fault)

namespace Faults

def beside : Faults → Faults → Faults
  | [], gs => gs
  | fs, [] => fs
  | f :: fs, g :: gs => (f ++ g) :: beside fs gs

/-- As part of a collection. -/
def within (fs : Faults) : Faults := [] :: fs

def first? (fs : Faults) : Option Fault := fs.flatten.head?

end Faults

/-- A value, and what is wrong with it; with a fault the value means nothing. Numbered mappings come
with what stands in them. -/
structure Reading where
  value : Item
  faults : Faults
  mappings : List (Nat × Entries)
deriving Repr

namespace Reading

def sound (v : Item) : Reading := ⟨v, [], []⟩

def faulty (f : Fault) : Reading := ⟨.null, [[f]], []⟩

/-- What is met only when the parts of a collection are looked at. -/
def unfit : Reading := ⟨.null, Faults.within [[.malformed]], []⟩

def ofExcept : Except Fault Item → Reading
  | .ok v => sound v
  | .error f => faulty f

def sequence (items : List Reading) : Reading :=
  ⟨.list (items.map (·.value)), Faults.within (items.foldr (fun r fs => r.faults.beside fs) []),
    items.flatMap (·.mappings)⟩

def pair (first second : Reading) : Reading :=
  ⟨.tuple [first.value, second.value], first.faults.beside second.faults,
    first.mappings ++ second.mappings⟩

/-- A key that is a list or a mapping is refused before its value is looked at. -/
def entryFaults (key value : Reading) : Faults :=
  (key.faults.beside (if Node.isKey key.value then [] else [[.malformed]])).beside value.faults

def gathered (entries : List (Reading × Reading)) : Entries :=
  Value.dictionary (entries.map fun (k, v) => (k.value, v.value))

def ofEntries (value : Item) (entries : List (Reading × Reading)) : Reading :=
  ⟨value, Faults.within (entries.foldr (fun (k, v) fs => (entryFaults k v).beside fs) []),
    entries.flatMap fun (k, v) => k.mappings ++ v.mappings⟩

def set (entries : List (Reading × Reading)) : Reading :=
  ofEntries (.set ((gathered entries).map Prod.fst)) entries

def mapping (number : Option Nat) (entries : List (Reading × Reading)) : Reading :=
  match number with
  | none => ofEntries (.map (gathered entries)) entries
  | some n =>
    let r := ofEntries (.shared n) entries
    { r with mappings := (n, gathered entries) :: r.mappings }

def result (r : Reading) : Except Fault Reading :=
  match r.faults.first? with
  | none => .ok r
  | some f => .error f

/-- The entries of a numbered mapping. -/
def numbered (r : Reading) (number : Nat) : Entries := (r.mappings.lookup number).getD []

end Reading

namespace Node

/-- A scalar as its text. -/
def textReading : Node → Reading
  | scalar _ content _ => .sound content.value
  | sequence _ _ | mapping _ _ _ | within _ => .faulty .malformed

mutual
/-- What a node stands for. Tags that are not known are refused. -/
def reading : Node → Reading
  | scalar tag content isPlain =>
    match kind? tag with
    | some (some "seq") | some (some "omap") | some (some "pairs") | some (some "map")
    | some (some "set") => .unfit
    | _ => .ofExcept (scalarValue tag content isPlain)
  | sequence tag items =>
    match kind? tag with
    | some none | some (some "seq") => .sequence (itemReadings items)
    | some (some "omap") | some (some "pairs") => .sequence (pairReadings items)
    | some (some "map") | some (some "set") => .unfit
    | _ => .faulty .malformed
  | mapping tag number entries =>
    match kind? tag with
    | some none | some (some "map") => (entryReadings? entries).elim .unfit fun (merged, own) =>
      .mapping number (merged ++ own)
    | some (some "set") => (entryReadings? entries).elim .unfit fun (merged, own) =>
      .set (merged ++ own)
    | some (some "seq") | some (some "omap") | some (some "pairs") => .unfit
    | _ => .faulty .malformed
  | within number => .sound (.shared number)

def itemReadings : List Node → List Reading
  | [] => []
  | n :: ns => n.reading :: itemReadings ns

/-- Pairs, each written as a mapping of one entry. -/
def pairReadings : List Node → List Reading
  | [] => []
  | mapping _ _ [(k, v)] :: ns => .pair k.reading v.reading :: pairReadings ns
  | _ :: ns => .faulty .malformed :: pairReadings ns

/-- The entries that are merged in, and those written out. -/
def entryReadings? : List (Node × Node) →
    Option (List (Reading × Reading) × List (Reading × Reading))
  | [] => some ([], [])
  | (k, v) :: rest => do
    if isMerge k then
      let more ← mergeReadings? v
      let (merged, own) ← entryReadings? rest
      some (more ++ merged, own)
    else
      let key := if isDefault k then k.textReading else k.reading
      let (merged, own) ← entryReadings? rest
      some (merged, (key, v.reading) :: own)

/-- The entries that a merge key brings: of a mapping, or of mappings of which the last come
first. -/
def mergeReadings? : Node → Option (List (Reading × Reading))
  | mapping _ _ entries => (entryReadings? entries).map fun (merged, own) => merged ++ own
  | sequence _ items => mergeItemReadings? items
  | scalar _ _ _ => none
  | within _ => some []

def mergeItemReadings? : List Node → Option (List (Reading × Reading))
  | [] => some []
  | mapping _ _ entries :: rest => do
    let (merged, own) ← entryReadings? entries
    let later ← mergeItemReadings? rest
    some (later ++ (merged ++ own))
  | within _ :: rest => mergeItemReadings? rest
  | sequence _ _ :: _ | scalar _ _ _ :: _ => none
end

end Node

/-- What the one document in a text stands for. What is wrong with its form is told first, and then
what is wrong with its values. -/
def read (source : Text) : Except Fault Reading :=
  match Token.ofText? source with
  | none => .error .malformed
  | some tokens =>
    match Node.ofTokens tokens with
    | .error f => .error f
    | .ok node => node.reading.result

end Clearance.Yaml
