import Clearance.Yaml.Token

/-! The tree of nodes that the tokens of a document write. -/
namespace Clearance.Yaml

/-- Tags are written in full here. A mapping that can stand in several places has a number, by which
they are known to be the same. -/
inductive Node
  | scalar (tag : Option String) (content : Scalar.Content) (isPlain : Bool)
  | sequence (tag : Option String) (items : List Node)
  | mapping (tag : Option String) (number : Option Nat) (entries : List (Node × Node))
  /-- A mapping within itself. -/
  | within (number : Nat)
deriving Inhabited, Repr

namespace Node

/-- A node of which nothing but its tag is written. -/
def blank (tag : Option String) : Node := scalar tag (.text []) true

/-- What stands where a node may be left out. -/
def empty : Node := blank none

/-- The tokens to come, the nodes that were given names, and what handles stand for. Collections are
counted. What lies in one with a name can be met again in other places. -/
structure Feed where
  tokens : List Token
  named : List (Text × Node)
  handles : List (Text × Text)
  count : Nat
  isNamed : Bool

abbrev Reader := StateT Feed (Except Fault)

def refuse {α : Type} : Reader α := throw .malformed

/-- What could not be read is met as soon as it is looked at. -/
def peek : Reader (Option Token) := do
  match (← get).tokens.head? with
  | some (.fault f) => throw f
  | t => return t

def drop : Reader Unit := modify fun f => { f with tokens := f.tokens.drop 1 }

/-- Takes the next token if it is this one. -/
def accept (t : Token) : Reader Bool := do
  if (← peek) == some t then
    drop
    return true
  else return false

def expect (t : Token) : Reader Unit := do
  if !(← accept t) then refuse

/-- A tag in full. Its handle has to be known. -/
def fullTag (t : Tag) : Reader String := do
  match t.handle with
  | none => return String.ofList t.suffix
  | some h =>
    match (← get).handles.lookup h with
    | some meaning => return String.ofList (meaning ++ t.suffix)
    | none => refuse

/-- The anchor and the tag before a node, in either order. -/
def properties : Reader (Option Text × Option Tag) := do
  match ← peek with
  | some (.anchor a) =>
    drop
    match ← peek with
    | some (.tag t) => drop; return (some a, some t)
    | _ => return (some a, none)
  | some (.tag t) =>
    drop
    match ← peek with
    | some (.anchor a) => drop; return (some a, some t)
    | _ => return (none, some t)
  | _ => return (none, none)

/-- A name is given once. -/
def unused (anchor : Option Text) : Reader Unit := do
  match anchor with
  | none => return
  | some a => if ((← get).named.lookup a).isSome then refuse

def remember (anchor : Option Text) (n : Node) : Reader Node := do
  match anchor with
  | none => return n
  | some a =>
    modify fun f => { f with named := (a, n) :: f.named }
    return n

/-- A collection and what it is within itself. Both are told the number that it has. -/
def collect {α : Type} (anchor : Option Text) (make : Option Nat → List α → Node)
    (inside : Nat → Node) (body : Reader (List α)) : Reader Node := do
  let ⟨tokens, named, handles, count, wasNamed⟩ ← get
  let isNamed := wasNamed || anchor.isSome
  set (⟨tokens, named, handles, count + 1, isNamed⟩ : Feed)
  let _ ← remember anchor (inside count)
  let parts ← body
  modify fun f => { f with isNamed := wasNamed }
  remember anchor (make (if isNamed then some count else none) parts)

/-- Within itself a sequence is taken to be empty. -/
def collectItems (anchor : Option Text) (tag : Option String) (body : Reader (List Node)) :
    Reader Node :=
  collect anchor (fun _ => sequence tag) (fun _ => sequence tag []) body

def collectEntries (anchor : Option Text) (tag : Option String)
    (body : Reader (List (Node × Node))) : Reader Node :=
  collect anchor (mapping tag) within body

mutual
/-- A node. Only outside brackets can it be a block, and only as a value of a block mapping a
sequence that is not indented. -/
def node (isBlock isValue : Bool) : Nat → Reader Node
  | 0 => refuse
  | fuel + 1 => do
    match ← peek with
    | some (.alias a) =>
      drop
      match (← get).named.lookup a with
      | some n => return n
      | none => refuse
    | _ =>
      let (anchor, written) ← properties
      let tag ← match written with
        | some t => some <$> fullTag t
        | none => pure none
      let next ← peek
      unused anchor
      match next with
      | some .dash =>
        if isValue then collectItems anchor tag (looseItems fuel)
        else if anchor.isSome || tag.isSome then remember anchor (blank tag)
        else refuse
      | some (.scalar content isPlain) => drop; remember anchor (scalar tag content isPlain)
      | some .flowSequence => drop; collectItems anchor tag (flowItems true fuel)
      | some .flowMapping => drop; collectEntries anchor tag (flowEntries true fuel)
      | some .blockSequence =>
        if isBlock then
          drop
          collectItems anchor tag (blockItems fuel)
        else refuse
      | some .blockMapping =>
        if isBlock then
          drop
          collectEntries anchor tag (blockEntries fuel)
        else refuse
      | _ =>
        if anchor.isSome || tag.isSome then remember anchor (blank tag) else refuse

/-- A node, or nothing before one of the tokens that end its place. -/
def nodeUnless (ends : List Token) (isBlock isValue : Bool) : Nat → Reader Node
  | 0 => refuse
  | fuel + 1 => do
    match ← peek with
    | some t => if t ∈ ends then return empty else node isBlock isValue fuel
    | none => refuse

def blockItems : Nat → Reader (List Node)
  | 0 => refuse
  | fuel + 1 => do
    if ← accept .dash then
      let n ← nodeUnless [.dash, .blockEnd] true false fuel
      return n :: (← blockItems fuel)
    else
      expect .blockEnd
      return []

/-- The items of a sequence that is indented as much as the mapping it is a value in. -/
def looseItems : Nat → Reader (List Node)
  | 0 => refuse
  | fuel + 1 => do
    if ← accept .dash then
      let n ← nodeUnless [.dash, .key, .value, .blockEnd] true false fuel
      return n :: (← looseItems fuel)
    else return []

def blockEntries : Nat → Reader (List (Node × Node))
  | 0 => refuse
  | fuel + 1 => do
    if ← accept .key then
      let k ← nodeUnless [.key, .value, .blockEnd] true true fuel
      let v ← if ← accept .value then nodeUnless [.key, .value, .blockEnd] true true fuel
        else pure empty
      return (k, v) :: (← blockEntries fuel)
    else
      expect .blockEnd
      return []

/-- Items between brackets. A key makes an item a mapping of one entry. -/
def flowItems (isFirst : Bool) : Nat → Reader (List Node)
  | 0 => refuse
  | fuel + 1 => do
    if ← accept .flowSequenceEnd then return []
    if !isFirst then expect .comma
    if ← accept .flowSequenceEnd then return []
    if ← accept .key then
      let k ← nodeUnless [.value, .comma, .flowSequenceEnd] false false fuel
      let v ← if ← accept .value then nodeUnless [.comma, .flowSequenceEnd] false false fuel
        else pure empty
      return mapping none none [(k, v)] :: (← flowItems false fuel)
    else
      let n ← node false false fuel
      return n :: (← flowItems false fuel)

/-- Entries between braces. A node without a key sign has no value. -/
def flowEntries (isFirst : Bool) : Nat → Reader (List (Node × Node))
  | 0 => refuse
  | fuel + 1 => do
    if ← accept .flowMappingEnd then return []
    if !isFirst then expect .comma
    if ← accept .flowMappingEnd then return []
    if ← accept .key then
      let k ← nodeUnless [.value, .comma, .flowMappingEnd] false false fuel
      let v ← if ← accept .value then nodeUnless [.comma, .flowMappingEnd] false false fuel
        else pure empty
      return (k, v) :: (← flowEntries false fuel)
    else
      let n ← node false false fuel
      return (n, empty) :: (← flowEntries false fuel)
end

/-- What handles stand for unless directives say otherwise. -/
def commonHandles : List (Text × Text) :=
  [(['!', '!'], "tag:yaml.org,2002:".toList), (['!'], ['!'])]

/-- Directives before a document: the version is given once, and the meaning of a handle as well. -/
def directives (versioned : Bool) (handles : List (Text × Text)) :
    List Token → Except Fault (List (Text × Text) × List Token)
  | .directive (.version major) :: rest =>
    if versioned || major != 1 then .error .malformed else directives true handles rest
  | .directive (.handle name meaning) :: rest =>
    if (handles.lookup name).isSome then .error .malformed
    else directives versioned ((name, meaning) :: handles) rest
  | .directive .other :: rest => directives versioned handles rest
  | ts => .ok (handles ++ commonHandles, ts)

/-- The node of a document with an optional start; nothing but end marks may follow it. -/
def ofTokens (tokens : List Token) : Except Fault Node := do
  if tokens = [] then return empty
  let (handles, rest) ← directives false [] tokens
  let (isExplicit, rest) ← match rest with
    | .documentStart :: rest => .ok (true, rest)
    | .fault f :: _ => .error f
    | rest => if rest.length = tokens.length then .ok (false, rest) else .error .malformed
  let body : Reader Node := do
    match ← peek with
    | none => return empty
    | some .documentStart => refuse
    | some .documentEnd => if isExplicit then return empty else refuse
    | some _ => node true false (4 * tokens.length + 4)
  let (n, feed) ← body.run ⟨rest, [], handles, 0, false⟩
  let left := feed.tokens.dropWhile (· == .documentEnd)
  if left = [] then return n
  let (_, left) ← directives false [] left
  match left with
  | .fault f :: _ => .error f
  | _ => .error .malformed

end Node

end Clearance.Yaml
