import Clearance.Text

/-! Places in a document, which count lines and columns, and the spacing around them. -/
namespace Clearance.Yaml

def isBreak (c : Char) : Bool :=
  c == '\n' || c == '\r' || c.toNat == 0x85 || c.toNat == 0x2028 || c.toNat == 0x2029

/-- Spaces and tabs. -/
def isWhite (c : Char) : Bool := c == ' ' || c == '\t'

/-- The end of the document ends whatever a blank or a line break would. -/
def isGap : Option Char → Bool
  | none => true
  | some c => isWhite c || isBreak c

def isLineEnd : Option Char → Bool
  | none => true
  | some c => isBreak c

/-- What may stand in a document at all. -/
def isAllowed (c : Char) : Bool :=
  let n := c.toNat
  n == 0x09 || n == 0x0a || n == 0x0d || (0x20 ≤ n && n ≤ 0x7e) || n == 0x85 ||
    (0xa0 ≤ n && n ≤ 0xfffd) || 0x10000 ≤ n

structure Place where
  line : Nat
  column : Nat
  index : Nat
  rest : Text

namespace Place

def start (source : Text) : Place := ⟨0, 0, 0, source⟩

def peek (p : Place) : Option Char := p.rest.head?

def peekAt (p : Place) (n : Nat) : Option Char := p.rest[n]?

def sees (p : Place) (c : Char) : Bool := p.peek == some c

/-- A byte order mark takes no column, and a carriage return before a line feed ends no line. -/
def step (p : Place) : Place :=
  match p.rest with
  | [] => p
  | c :: rest =>
    if isBreak c && !(c == '\r' && rest.head? == some '\n') then
      ⟨p.line + 1, 0, p.index + 1, rest⟩
    else if c.toNat = 0xfeff then ⟨p.line, p.column, p.index + 1, rest⟩
    else ⟨p.line, p.column + 1, p.index + 1, rest⟩

def forward (p : Place) : Nat → Place
  | 0 => p
  | n + 1 => p.step.forward n

/-- Leaves behind all characters with a property. -/
def past (p : Place) (q : Char → Bool) : Place := p.forward (p.rest.takeWhile q).length

def pastSpaces (p : Place) : Place := p.past (· == ' ')

def pastWhite (p : Place) : Place := p.past isWhite

def pastLine (p : Place) : Place := p.past fun c => !isBreak c

/-- The line break here, written as a line feed unless it is a separator of its own kind. -/
def lineBreak (p : Place) : Text × Place :=
  match p.rest with
  | '\r' :: '\n' :: _ => (['\n'], p.forward 2)
  | c :: _ =>
    if !isBreak c then ([], p)
    else if c.toNat < 0x2028 then (['\n'], p.step)
    else ([c], p.step)
  | [] => ([], p)

/-- Three dashes or three points at this place, with a gap after them. -/
def seesMark (p : Place) : Bool :=
  (p.rest.take 3 == ['-', '-', '-'] || p.rest.take 3 == ['.', '.', '.']) && isGap (p.peekAt 3)

end Place

end Clearance.Yaml
