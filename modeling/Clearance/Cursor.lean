import Clearance.Token

/-! A place in a text that tokens are read from, one at a time. -/
namespace Clearance

/-- How many characters lie behind, and those that lie ahead. -/
structure Cursor where
  position : Nat
  rest : Text
deriving DecidableEq, Repr

/-- A token and the position where it starts. -/
structure Placed where
  token : Token
  position : Nat
deriving DecidableEq, Repr

namespace Cursor

def start (source : Text) : Cursor := ⟨0, source⟩

def advance (c : Cursor) (n : Nat) : Cursor := ⟨c.position + n, c.rest.drop n⟩

@[simp] theorem advance_rest (c : Cursor) (n : Nat) : (c.advance n).rest = c.rest.drop n := rfl

@[simp] theorem advance_zero (c : Cursor) : c.advance 0 = c := rfl

/-- The same place with the spacing ahead left behind. -/
def skip (c : Cursor) : Cursor := c.advance (c.rest.takeWhile Alphabet.isSpacing).length

@[simp] theorem skip_rest (c : Cursor) : c.skip.rest = c.rest.dropWhile Alphabet.isSpacing := by
  show c.rest.drop _ = _
  induction c.rest with
  | nil => rfl
  | cons a rest ih => by_cases h : Alphabet.isSpacing a <;> simp_all

/-- The next token and the place after it. The last token is read again and again. -/
def next (c : Cursor) : Placed × Cursor :=
  let r := Token.read c.skip.rest
  (⟨r.1, c.skip.position⟩, c.skip.advance r.2)

@[simp] theorem next_token (c : Cursor) : c.next.1.token = (Token.read c.skip.rest).1 := rfl

/-- Every token but the last leaves less text ahead. -/
theorem next_shorter {c : Cursor} (h : c.next.1.token.isLast = false) :
    c.next.2.rest.length < c.rest.length := by
  have hp := Token.read_width_pos h
  have hw := Token.read_width_le c.skip.rest
  have hs : c.skip.rest.length ≤ c.rest.length := by simp [skip]
  show (c.skip.advance (Token.read c.skip.rest).2).rest.length < c.rest.length
  simp only [advance_rest, List.length_drop]
  omega

/-- All tokens ahead, without the end of the text but with a stray character, and the place
after them. -/
def drain (c : Cursor) : List Placed × Cursor :=
  if c.next.1.token = .finish then ([], c.next.2)
  else if h : c.next.1.token.isLast then ([c.next.1], c.next.2)
  else
    have : c.next.2.rest.length < c.rest.length := next_shorter (by simpa using h)
    let r := c.next.2.drain
    (c.next.1 :: r.1, r.2)
termination_by c.rest.length

end Cursor

/-- The tokens of a text. -/
def Token.stream (source : Text) : List Placed := (Cursor.start source).drain.1

end Clearance
