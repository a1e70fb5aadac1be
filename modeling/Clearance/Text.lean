import Clearance.Alphabet.Blank

/-! Texts as lists of characters: splitting, trimming and joining. -/
namespace Clearance

/-- Positions and lengths of a text count its characters. -/
abbrev Text := List Char

namespace Text

/-- The pieces between the separators, so one more than there are separators. -/
def splitOn (sep : Char) : Text → List Text
  | [] => [[]]
  | c :: rest =>
    if c = sep then [] :: splitOn sep rest
    else match splitOn sep rest with
      | [] => [[c]]
      | piece :: pieces => (c :: piece) :: pieces

@[simp] theorem splitOn_ne_nil (sep : Char) (s : Text) : splitOn sep s ≠ [] := by
  cases s with
  | nil => simp [splitOn]
  | cons c rest =>
    simp only [splitOn]
    split
    · simp
    · split <;> simp

/-- Joining pieces, each but the last followed by the separator. -/
def join (sep : Text) : List Text → Text
  | [] => []
  | [piece] => piece
  | piece :: next :: pieces => piece ++ sep ++ join sep (next :: pieces)

@[simp] theorem join_singleton (sep piece : Text) : join sep [piece] = piece := rfl

@[simp] theorem join_cons_cons (sep piece next : Text) (pieces : List Text) :
    join sep (piece :: next :: pieces) = piece ++ sep ++ join sep (next :: pieces) := rfl

def dropEndWhile (p : Char → Bool) (s : Text) : Text := (s.reverse.dropWhile p).reverse

/-- Blanks of every script are trimmed, at both ends. -/
def trim (s : Text) : Text := dropEndWhile Alphabet.isBlank (s.dropWhile Alphabet.isBlank)

end Text

end Clearance
