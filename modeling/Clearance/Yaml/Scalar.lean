import Clearance.Number.Numeral
import Clearance.Yaml.Fault
import Clearance.Yaml.Place

/-! The texts of scalars: plain, between quotes, and in blocks of lines. Lines are folded as they
are read. Each reader is bounded by a count of steps that is at least the length ahead. -/
namespace Clearance.Yaml.Scalar

/-- The line breaks after a first one, with the blanks before them; a document mark is refused. -/
def emptyLines : Nat → Place → Option (Text × Place)
  | 0, _ => none
  | fuel + 1, p =>
    if p.seesMark then none
    else
      let p := p.pastWhite
      if p.peek.any isBreak then do
        let (b, p) := p.lineBreak
        let (bs, p) ← emptyLines fuel p
        pure (b ++ bs, p)
      else some ([], p)

/-- A single line break is folded to a space; of several, the first is dropped. -/
def fold (first rest : Text) : Text :=
  if first ≠ ['\n'] then first ++ rest else if rest = [] then [' '] else rest

/-- Characters that an escape stands for. -/
def escapes : List (Char × Nat) :=
  [('0', 0x00), ('a', 0x07), ('b', 0x08), ('t', 0x09), ('\t', 0x09), ('n', 0x0a), ('v', 0x0b),
    ('f', 0x0c), ('r', 0x0d), ('e', 0x1b), (' ', 0x20), ('"', 0x22), ('\\', 0x5c), ('/', 0x2f),
    ('N', 0x85), ('_', 0xa0), ('L', 0x2028), ('P', 0x2029)]

/-- Escapes that are followed by the digits of a code point, and how many. -/
def codeLengths : List (Char × Nat) := [('x', 2), ('u', 4), ('U', 8)]

/-- What a scalar holds. Escapes can name halves of surrogate pairs, which are no characters; what
holds one of them is known by its code points. -/
inductive Content
  | text (s : Text)
  | codes (points : List Nat)
deriving DecidableEq, Repr

def Content.ofCodes (points : List Nat) : Content :=
  if points.all fun n => n.isValidChar then .text (points.map Char.ofNat) else .codes points

/-- The code points after an opening quote, to its closing quote. They end early at one that is none
of a character. -/
def quoted (isDouble : Bool) : Nat → Place → Option (List Nat × Place)
  | 0, _ => none
  | fuel + 1, p =>
    match p.peek with
    | none => none
    | some c =>
      if isWhite c || isBreak c then do
        let white := p.rest.takeWhile isWhite
        let q := p.forward white.length
        match q.peek with
        | none => none
        | some d =>
          if isBreak d then do
            let (b, q) := q.lineBreak
            let (bs, q) ← emptyLines fuel q
            let (codes, q) ← quoted isDouble fuel q
            pure ((fold b bs).map Char.toNat ++ codes, q)
          else do
            let (codes, q) ← quoted isDouble fuel q
            pure (white.map Char.toNat ++ codes, q)
      else if isDouble && c == '"' then some ([], p.step)
      else if !isDouble && c.toNat == 0x27 then
        if p.peekAt 1 == some c then do
          let (codes, q) ← quoted isDouble fuel (p.forward 2)
          pure (c.toNat :: codes, q)
        else some ([], p.step)
      else if isDouble && c == '\\' then do
        let e ← p.peekAt 1
        match List.lookup e escapes, List.lookup e codeLengths with
        | some n, _ =>
          let (codes, q) ← quoted isDouble fuel (p.forward 2)
          pure (n :: codes, q)
        | none, some size =>
          let digits := (p.rest.drop 2).take size
          if digits.length = size ∧ digits.all (Numeral.isDigit 16) then do
            let n := Numeral.ofDigits 16 digits
            let q := p.forward (2 + size)
            if (Fault.ofCode? n).isSome then pure ([n], q)
            else
              let (codes, q) ← quoted isDouble fuel q
              pure (n :: codes, q)
          else none
        | none, none =>
          if isBreak e then do
            let (_, q) := p.step.lineBreak
            let (bs, q) ← emptyLines fuel q
            let (codes, q) ← quoted isDouble fuel q
            pure (bs.map Char.toNat ++ codes, q)
          else none
      else do
        let (codes, q) ← quoted isDouble fuel p.step
        pure (c.toNat :: codes, q)

/-- The stretch of a plain scalar up to a gap or what ends it: a colon before a gap, and between
brackets a colon before one of them, a comma, a bracket or a question mark. -/
def plainStretch (inFlow : Bool) : Text → Text
  | [] => []
  | c :: rest =>
    if isWhite c || isBreak c ||
        (c == ':' && (isGap rest.head? || (inFlow && rest.head?.any (· ∈ ",[]\x7b\x7d".toList)))) ||
        (inFlow && c ∈ ",?[]\x7b\x7d".toList) then []
    else c :: plainStretch inFlow rest

/-- The blank lines inside a plain scalar, or nothing when a document mark starts a line. -/
def plainLines : Nat → Place → Option Text × Place
  | 0, p => (none, p)
  | fuel + 1, p =>
    if p.seesMark then (none, p)
    else
      let p := p.pastSpaces
      if p.peek.any isBreak then
        let (b, p) := p.lineBreak
        let (bs, p) := plainLines fuel p
        (bs.map (b ++ ·), p)
      else (some [], p)

/-- The spacing between two stretches, empty where none can follow, and whether it goes over a
line end. -/
def plainSpacing (fuel : Nat) (p : Place) : Text × Bool × Place :=
  let spaces := p.rest.takeWhile (· == ' ')
  let p := p.forward spaces.length
  if p.peek.any isBreak then
    let (b, p) := p.lineBreak
    let (bs, p) := plainLines fuel p
    ((bs.map (fold b)).getD [], true, p)
  else (spaces, false, p)

/-- A plain scalar of lines indented by more than the indentation around it, and whether it ended
past a line end. -/
def plain (inFlow : Bool) (indent : Int) : Nat → Place → Text × Bool × Place
  | 0, p => ([], false, p)
  | fuel + 1, p =>
    let stretch := plainStretch inFlow p.rest
    let q := p.forward stretch.length
    let (spacing, crossed, r) := plainSpacing fuel q
    if spacing = [] || r.sees '#' || (!inFlow && (r.column : Int) < indent + 1) ||
        plainStretch inFlow r.rest = [] then (stretch, crossed, r)
    else
      let (more, crossed, r) := plain inFlow indent fuel r
      (stretch ++ spacing ++ more, crossed, r)

/-- What to do with the line breaks at the end of a block: keep the first, none or all. -/
inductive Chomping
  | clip | strip | keep
deriving DecidableEq

/-- The marks after the block sign: chomping and the indentation, either of them first. -/
def blockHeader (p : Place) : Option (Chomping × Option Nat × Place) :=
  let chomping (p : Place) : Chomping × Place :=
    match p.peek with
    | some '+' => (.keep, p.step)
    | some '-' => (.strip, p.step)
    | _ => (.clip, p)
  let size (p : Place) : Option Nat × Place :=
    match p.peek with
    | some c => if c.isDigit then (Numeral.digitValue? c, p.step) else (none, p)
    | none => (none, p)
  let (chomp, p) := chomping p
  let (digit, p) := size p
  let (chomp, p) := if chomp = .clip ∧ digit.isSome then chomping p else (chomp, p)
  if digit = some 0 then none
  else if p.sees ' ' || isLineEnd p.peek then
    let p := p.pastSpaces
    let p := if p.sees '#' then p.pastLine else p
    if isLineEnd p.peek then some (chomp, digit, p.lineBreak.2) else none
  else none

/-- Blank lines at the head of a block, and the greatest column that spaces reach in them. -/
def blockIndent : Nat → Nat → Place → Text × Nat × Place
  | 0, widest, p => ([], widest, p)
  | fuel + 1, widest, p =>
    if p.sees ' ' then
      let p := p.step
      blockIndent fuel (max widest p.column) p
    else if p.peek.any isBreak then
      let (b, p) := p.lineBreak
      let (bs, widest, p) := blockIndent fuel widest p
      (b ++ bs, widest, p)
    else ([], widest, p)

/-- Leaves behind at most the spaces up to a column. -/
def upTo (column : Nat) (p : Place) : Place :=
  p.forward (min (column - p.column) (p.rest.takeWhile (· == ' ')).length)

def blockBreaks (column : Nat) : Nat → Place → Text × Place
  | 0, p => ([], p)
  | fuel + 1, p =>
    let p := upTo column p
    if p.peek.any isBreak then
      let (b, p) := p.lineBreak
      let (bs, p) := blockBreaks column fuel p
      (b ++ bs, p)
    else ([], p)

/-- The lines of a block at a column. `before` holds the breaks read ahead of the line. -/
def blockLines (folded : Bool) (column : Nat) (chomp : Chomping) :
    Nat → Text → Place → Text × Place
  | 0, _, p => ([], p)
  | fuel + 1, before, p =>
    let white := p.peek.any isWhite
    let line := p.rest.takeWhile fun c => !isBreak c
    let (b, p) := (p.forward line.length).lineBreak
    let (breaks, p) := blockBreaks column fuel p
    if p.column = column ∧ p.peek.isSome then
      let joint :=
        if folded && b == ['\n'] && !white && !p.peek.any isWhite then
          if breaks = [] then [' '] else []
        else b
      let (more, p) := blockLines folded column chomp fuel breaks p
      (before ++ line ++ joint ++ more, p)
    else
      let tail := match chomp with
        | .strip => []
        | .clip => b
        | .keep => b ++ breaks
      (before ++ line ++ tail, p)

/-- A block scalar after its sign. Its lines start at the column given by the header, or else at
that of its first line, and always within the indentation around it. -/
def block (folded : Bool) (indent : Int) (p : Place) : Option (Text × Place) := do
  let (chomp, digit, p) ← blockHeader p
  let fuel := p.rest.length + 1
  let least := (max (indent + 1) 1).toNat
  let (breaks, column, p) := match digit with
    | some d =>
      let (bs, q) := blockBreaks (least + d - 1) fuel p
      (bs, least + d - 1, q)
    | none =>
      let (bs, widest, q) := blockIndent fuel 0 p
      (bs, max least widest, q)
  if p.column = column ∧ p.peek.isSome then
    pure (blockLines folded column chomp fuel breaks p)
  else
    pure (if chomp = .keep then breaks else [], p)

end Clearance.Yaml.Scalar
