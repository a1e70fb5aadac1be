import Clearance.Alphabet.Ranges

/-! Blanks: what an expression may have between tokens, and what is trimmed off a credential. -/
namespace Clearance.Alphabet

/-- Tokens are separated by these four only. -/
def isSpacing (c : Char) : Bool := c == ' ' || c == '\t' || c == '\n' || c == '\r'

/-- Every separator and every control that ends a line or a record. -/
def blanks : Ranges :=
  [(0x9, 0xd), (0x1c, 0x20), (0x85, 0x85), (0xa0, 0xa0), (0x1680, 0x1680), (0x2000, 0x200a),
   (0x2028, 0x2029), (0x202f, 0x202f), (0x205f, 0x205f), (0x3000, 0x3000)]

def isBlank (c : Char) : Bool := blanks.holds c.toNat

end Clearance.Alphabet
