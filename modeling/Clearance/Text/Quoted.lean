import Clearance.Text
import Clearance.Alphabet.Printable

/-! A text written between quotes, so that it can be told from the words around it. -/
namespace Clearance.Text.Quoted

def single : Char := Char.ofNat 0x27

def double : Char := Char.ofNat 0x22

def backslash : Char := Char.ofNat 0x5c

/-- The last hexadecimal digits of a number, in lower case. -/
def hex : Nat → Nat → Text
  | 0, _ => []
  | width + 1, n => hex width (n / 16) ++ [Nat.digitChar (n % 16)]

/-- Single quotes, unless the text has some and has no double quotes. -/
def mark (s : Text) : Char := if single ∈ s ∧ double ∉ s then double else single

/-- The mark and the backslash are escaped; what cannot be seen is written by its number. -/
def escape (mark c : Char) : Text :=
  if c = mark ∨ c = backslash then [backslash, c]
  else if c = '\n' then [backslash, 'n']
  else if c = '\r' then [backslash, 'r']
  else if c = '\t' then [backslash, 't']
  else if Alphabet.isPrintable c then [c]
  else if c.toNat < 0x100 then backslash :: 'x' :: hex 2 c.toNat
  else if c.toNat < 0x10000 then backslash :: 'u' :: hex 4 c.toNat
  else backslash :: 'U' :: hex 8 c.toNat

def encode (s : Text) : Text := mark s :: s.flatMap (escape (mark s)) ++ [mark s]

/-- Bytes are written as the characters of their numbers, as far as those are plain. -/
def encodeBytes (content : List UInt8) : Text :=
  let quote := mark (content.map fun b => Char.ofNat b.toNat)
  let escapeByte (b : UInt8) : Text :=
    if b < 0x7f then escape quote (Char.ofNat b.toNat) else backslash :: 'x' :: hex 2 b.toNat
  'b' :: quote :: content.flatMap escapeByte ++ [quote]

end Clearance.Text.Quoted
