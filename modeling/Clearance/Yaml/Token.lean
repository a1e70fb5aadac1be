import Clearance.Yaml.Scalar

/-! Tokens of a document. Indentation and the places where keys may stand are tracked while
reading, so that blocks begin and end by tokens of their own. -/
namespace Clearance.Yaml

/-- A tag is a handle, if it is written with one, and a suffix. -/
structure Tag where
  handle : Option Text
  suffix : Text
deriving DecidableEq, Repr

/-- What is declared before a document: the version it is written in, or what a handle stands for.
Other directives mean nothing here. -/
inductive Directive
  | version (major : Nat)
  | handle (name meaning : Text)
  | other
deriving DecidableEq, Repr

inductive Token
  | directive (d : Directive)
  | documentStart | documentEnd
  | blockSequence | blockMapping | blockEnd
  | flowSequence | flowSequenceEnd
  | flowMapping | flowMappingEnd
  | dash | comma
  | key | value
  | alias (name : Text)
  | anchor (name : Text)
  | tag (t : Tag)
  | scalar (content : Scalar.Content) (isPlain : Bool)
  /-- What could not be read, and with it all that comes after. -/
  | fault (f : Fault)
deriving DecidableEq, Repr

/-- A token that turns out to be a key if a colon follows on its line. -/
structure Candidate where
  token : Nat
  isRequired : Bool
  index : Nat
  line : Nat
  column : Nat

/-- What has been read, the last token first, and what it asks of what follows. Each level of
brackets has its own candidate, the innermost first. -/
structure Layout where
  place : Place
  tokens : List Token
  count : Nat
  indent : Int
  outer : List Int
  candidates : List (Option Candidate)
  mayKey : Bool
  fault : Option Fault

namespace Layout

def start (source : Text) : Layout :=
  let p := Place.start source
  let p := if p.peek.any (·.toNat = 0xfeff) then p.step else p
  ⟨p, [], 0, -1, [], [none], true, none⟩

/-- Outside all brackets there is one level only. -/
def inFlow (l : Layout) : Bool := 1 < l.candidates.length

def push (l : Layout) (t : Token) : Layout :=
  { l with tokens := t :: l.tokens, count := l.count + 1 }

/-- Puts tokens before the one with a number. -/
def insert (l : Layout) (before : Nat) (ts : List Token) : Layout :=
  let later := l.count - before
  { l with
    tokens := l.tokens.take later ++ ts.reverse ++ l.tokens.drop later
    count := l.count + ts.length }

def consume (l : Layout) (n : Nat) : Layout := { l with place := l.place.forward n }

/-- Blocks that are indented by more than the column are ended. -/
def closeBlocks (column : Int) : List Int → Layout → Layout
  | [], l => l
  | i :: outer, l =>
    if column < l.indent then closeBlocks column outer { l.push .blockEnd with indent := i, outer }
    else l

def dedent (l : Layout) (column : Int) : Layout :=
  if l.inFlow then l else closeBlocks column l.outer l

/-- A deeper column opens a block. -/
def deepen (l : Layout) (column : Nat) : Bool × Layout :=
  if l.indent < column then (true, { l with indent := column, outer := l.indent :: l.outer })
  else (false, l)

/-- Gives up the candidate of the innermost level; one that has to be a key cannot be given up. -/
def dropCandidate (l : Layout) : Option Layout :=
  match l.candidates with
  | some c :: rest => if c.isRequired then none else some { l with candidates := none :: rest }
  | _ => some l

/-- A candidate lasts for its line, and for 1024 characters. -/
def isStale (p : Place) (c : Candidate) : Bool := c.line != p.line || 1024 < p.index - c.index

def dropStale (l : Layout) : Option Layout :=
  let stale := fun (c : Option Candidate) => c.any (isStale l.place)
  if l.candidates.any fun c => stale c && c.any (·.isRequired) then none
  else some { l with candidates := l.candidates.map fun c => if stale c then none else c }

/-- The next token becomes the candidate, where keys may stand. -/
def saveCandidate (l : Layout) : Option Layout :=
  if l.mayKey then do
    let l ← l.dropCandidate
    let required := !l.inFlow && l.indent == (l.place.column : Int)
    let c : Candidate := ⟨l.count, required, l.place.index, l.place.line, l.place.column⟩
    pure { l with candidates := some c :: l.candidates.drop 1 }
  else some l

/-- Leaves spacing and comments behind. A new line outside brackets may begin with a key. -/
def skip : Nat → Layout → Layout
  | 0, l => l
  | fuel + 1, l =>
    let p := l.place.pastSpaces
    let p := if p.sees '#' then p.pastLine else p
    if p.peek.any isBreak then
      skip fuel { l with place := p.lineBreak.2, mayKey := l.mayKey || !l.inFlow }
    else { l with place := p }

def isNameChar (c : Char) : Bool := c.isAlphanum || c == '-' || c == '_'

def isUriChar (c : Char) : Bool :=
  c.isAlphanum || c ∈ "-;/?:@&=+$,_.!~*()[]%".toList || c.toNat == 0x27

/-- A name after its sign, for an anchor or an alias. -/
def name (p : Place) : Option (Text × Place) :=
  let p := p.step
  let n := p.rest.takeWhile isNameChar
  let q := p.forward n.length
  if n ≠ [] ∧ (isGap q.peek ∨ q.peek.any (· ∈ "?:,]\x7d%@".toList) ∨ q.peek.any (·.toNat = 0x60))
  then some (n, q) else none

/-- A tag: between angle brackets, a lone exclamation mark, or a handle and a suffix. -/
def tag (p : Place) : Option (Tag × Place) := do
  let uri (p : Place) : Text × Place :=
    let u := p.rest.takeWhile isUriChar
    (u, p.forward u.length)
  let (t, q) ← match p.peekAt 1 with
    | some '<' =>
      let (u, q) := uri (p.forward 2)
      if u ≠ [] ∧ q.sees '>' then some (⟨none, u⟩, q.step) else none
    | c =>
      if isGap c then some (⟨none, ['!']⟩, p.step)
      else
        let body := p.rest.drop 1
        let handle := body.takeWhile isNameChar
        if (body.takeWhile fun c => !(c == ' ' || isBreak c)).contains '!' then
          if body[handle.length]? = some '!' then
            let (u, q) := uri (p.forward (handle.length + 2))
            if u = [] then none else some (⟨some ('!' :: handle ++ ['!']), u⟩, q)
          else none
        else
          let (u, q) := uri p.step
          if u = [] then none else some (⟨some ['!'], u⟩, q)
  if q.sees ' ' || isLineEnd q.peek then pure (t, q) else none

/-- The version that a directive declares, of two numbers with a point between them. -/
def version (p : Place) : Option (Directive × Place) := do
  let number (p : Place) : Option (Text × Place) :=
    let digits := p.rest.takeWhile Char.isDigit
    if digits = [] then none else some (digits, p.forward digits.length)
  let (major, p) ← number p
  if p.sees '.' then
    let (_, p) ← number p.step
    pure (.version (Numeral.ofDigits 10 major), p)
  else none

/-- A handle, with the exclamation marks around its name, and what it stands for. -/
def handle (p : Place) : Option (Directive × Place) := do
  if p.sees '!' then
    let name := (p.rest.drop 1).takeWhile isNameChar
    let size ← if p.peekAt 1 = some ' ' then some 1
      else if p.peekAt (name.length + 1) = some '!' then some (name.length + 2)
      else none
    let q := p.forward size
    if q.sees ' ' then
      let q := q.pastSpaces
      let meaning := q.rest.takeWhile isUriChar
      if meaning = [] then none
      else pure (.handle (p.rest.take size) meaning, q.forward meaning.length)
    else none
  else none

/-- A directive: a name, and to the end of the line what it declares and a comment. -/
def directive (p : Place) : Option (Token × Place) := do
  let p := p.step
  let n := p.rest.takeWhile isNameChar
  let q := p.forward n.length
  if n ≠ [] ∧ (q.sees ' ' ∨ isLineEnd q.peek) then
    let (d, r) ← if n = "YAML".toList then version q.pastSpaces
      else if n = "TAG".toList then handle q.pastSpaces
      else some (.other, q.pastLine)
    let s := r.pastSpaces
    if r.sees ' ' ∨ isLineEnd r.peek then
      if s.sees '#' ∨ isLineEnd s.peek then pure (.directive d, s.pastLine.lineBreak.2)
      else none
    else none
  else none

def mark (l : Layout) (t : Token) : Option Layout := do
  let l ← (l.dedent (-1)).dropCandidate
  pure ({ l with mayKey := false }.push t |>.consume 3)

def openFlow (l : Layout) (t : Token) : Option Layout := do
  let l ← l.saveCandidate
  pure ({ l with candidates := none :: l.candidates, mayKey := true }.push t |>.consume 1)

def closeFlow (l : Layout) (t : Token) : Option Layout := do
  let l ← l.dropCandidate
  if l.inFlow then
    pure ({ l with candidates := l.candidates.drop 1, mayKey := false }.push t |>.consume 1)
  else none

/-- A sign that starts an entry or a key of a block, and the block if it is the first one. -/
def openEntry (l : Layout) (collection sign : Token) : Option Layout := do
  let l ← if l.inFlow then some l
    else if l.mayKey then
      let (deeper, l) := l.deepen l.place.column
      some (if deeper then l.push collection else l)
    else none
  let l ← { l with mayKey := sign == Token.dash || !l.inFlow }.dropCandidate
  pure (l.push sign |>.consume 1)

/-- A colon makes the candidate a key, and opens a block mapping before it if it is the first. -/
def openValue (l : Layout) : Option Layout := do
  match l.candidates with
  | some c :: rest =>
    let l := { l with candidates := none :: rest, mayKey := false }
    let (deeper, l) := if l.inFlow then (false, l) else l.deepen c.column
    let l := l.insert c.token (if deeper then [.blockMapping, .key] else [.key])
    pure (l.push .value |>.consume 1)
  | _ =>
    if !l.inFlow && !l.mayKey then none
    else
      let (deeper, l) := if l.inFlow then (false, l) else l.deepen l.place.column
      let l := if deeper then l.push .blockMapping else l
      let l ← { l with mayKey := !l.inFlow }.dropCandidate
      pure (l.push .value |>.consume 1)

/-- A token that can be a key as a whole. -/
def word (l : Layout) (read : Layout → Option (Token × Place × Bool)) : Option Layout := do
  let l ← l.saveCandidate
  let (t, p, mayKey) ← read l
  pure ({ l with place := p, mayKey }.push t)

/-- A plain scalar starts with any character but a sign; three of the signs do if a character that
is no gap follows, two of them only outside brackets. -/
def startsPlain (l : Layout) (c : Char) : Bool :=
  !(isGap (some c) || c ∈ "-?:,[]\x7b\x7d#&*!|>\"%@".toList || c.toNat == 0x27 ||
      c.toNat == 0x60) ||
    (!isGap (l.place.peekAt 1) && (c == '-' || (!l.inFlow && (c == '?' || c == ':'))))

def fuel (l : Layout) : Nat := l.place.rest.length + 1

/-- Reads one token; at the end of the document all blocks are ended. -/
def read (l : Layout) : Option Layout := do
  let l ← (l.skip l.fuel).dropStale
  let l := l.dedent l.place.column
  let p := l.place
  match p.peek with
  | none => (l.dedent (-1)).dropCandidate
  | some c =>
    let gapAfter := isGap (p.peekAt 1)
    if c == '%' && p.column == 0 then
      let l ← (l.dedent (-1)).dropCandidate
      let (t, p) ← directive p
      pure ({ l with place := p, mayKey := false }.push t)
    else if c == '-' && p.column == 0 && p.seesMark then l.mark .documentStart
    else if c == '.' && p.column == 0 && p.seesMark then l.mark .documentEnd
    else if c == '[' then l.openFlow .flowSequence
    else if c.toNat == 0x7b then l.openFlow .flowMapping
    else if c == ']' then l.closeFlow .flowSequenceEnd
    else if c.toNat == 0x7d then l.closeFlow .flowMappingEnd
    else if c == ',' then do
      let l ← { l with mayKey := true }.dropCandidate
      pure (l.push .comma |>.consume 1)
    else if c == '-' && gapAfter then l.openEntry .blockSequence .dash
    else if c == '?' && (l.inFlow || gapAfter) then l.openEntry .blockMapping .key
    else if c == ':' && (l.inFlow || gapAfter) then l.openValue
    else if c == '*' then
      l.word fun l => (name l.place).map fun (n, p) => (.alias n, p, false)
    else if c == '&' then
      l.word fun l => (name l.place).map fun (n, p) => (.anchor n, p, false)
    else if c == '!' then
      l.word fun l => (tag l.place).map fun (t, p) => (.tag t, p, false)
    else if (c == '|' || c == '>') && !l.inFlow then do
      let l ← { l with mayKey := true }.dropCandidate
      let (text, p) ← Scalar.block (c == '>') l.indent p.step
      pure ({ l with place := p }.push (.scalar (.text text) false))
    else if c == '"' || c.toNat == 0x27 then do
      let l ← l.saveCandidate
      let (codes, p) ← Scalar.quoted (c == '"') l.fuel l.place.step
      match codes.findSome? Fault.ofCode? with
      | some f => pure { l with fault := some f }
      | none =>
        pure ({ l with place := p, mayKey := false }.push (.scalar (.ofCodes codes) false))
    else if l.startsPlain c then
      l.word fun l =>
        let (s, mayKey, p) := Scalar.plain l.inFlow l.indent l.fuel l.place
        some (.scalar (.text s) true, p, mayKey)
    else none

/-- Reads tokens to the end of the document, or to what cannot be read. -/
def run : Nat → Layout → Option Layout
  | 0, l => some l
  | n + 1, l => do
    let l ← l.read
    if l.fault.isSome then some l
    else if l.place.rest = [] then l.read
    else run n l

/-- The tokens read, in order. Before a fault only those are certain that precede every candidate,
for a key sign may yet be put before any of the others. -/
def certain (l : Layout) : List Token :=
  let tokens := l.tokens.reverse
  match l.fault with
  | none => tokens
  | some f =>
    let numbers := l.candidates.filterMap fun c => c.map (·.token)
    tokens.take (numbers.foldl min l.count) ++ [.fault f]

end Layout

/-- The tokens of a document that can be told apart; control characters are not allowed in it. -/
def Token.ofText? (source : Text) : Option (List Token) :=
  if source.all isAllowed then ((Layout.start source).run (source.length + 1)).map Layout.certain
  else none

end Clearance.Yaml
