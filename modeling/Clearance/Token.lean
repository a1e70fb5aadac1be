import Clearance.Text
import Clearance.Alphabet.Letter

/-! Tokens of an expression, and how one is read off the front of a text. -/
namespace Clearance

inductive Token
  | label (text : Text)
  | openParen | closeParen
  | and | or
  | finish
  | stray (c : Char)
deriving DecidableEq, Repr

namespace Token

/-- What sort of token it is, the text it carries left aside. -/
inductive Kind
  | label | openParen | closeParen | and | or | finish | stray
deriving DecidableEq, Repr

def Kind.name : Kind → String
  | .label => "ACCESS_TOKEN"
  | .openParen => "OPEN_PAREN"
  | .closeParen => "CLOSE_PAREN"
  | .and => "AND"
  | .or => "OR"
  | .finish => "END"
  | .stray => "ERROR"

def Kind.all : List Kind := [.label, .openParen, .closeParen, .and, .or, .finish, .stray]

def Kind.ofName? (name : String) : Option Kind := Kind.all.find? fun k => k.name == name

def kind : Token → Kind
  | label _ => .label
  | openParen => .openParen
  | closeParen => .closeParen
  | and => .and
  | or => .or
  | finish => .finish
  | stray _ => .stray

/-- Labels carry their text and stray characters themselves. -/
def text : Token → Text
  | label s => s
  | stray c => [c]
  | _ => []

/-- No token follows the end of the text or a character that starts none. -/
def isLast : Token → Bool
  | finish => true
  | stray _ => true
  | _ => false

/-- The label that starts after an opening quote, and the number of characters it takes with
what ends it. A backslash pairs with a quote or a backslash, both being kept; any other
backslash ends the label as a closing quote would, and so does the end of the text. -/
def quoted : Text → Text × Nat
  | [] => ([], 0)
  | c :: rest =>
    if c = '"' then ([], 1)
    else if c = '\\' then
      match rest with
      | [] => ([], 1)
      | d :: after =>
        if d = '"' ∨ d = '\\' then
          let q := quoted after
          (c :: d :: q.1, q.2 + 2)
        else ([], 1)
    else
      let q := quoted rest
      (c :: q.1, q.2 + 1)

theorem quoted_width_le (s : Text) : (quoted s).2 ≤ s.length := by
  fun_induction quoted s <;> simp_all <;> omega

/-- The first token of a text and its width. Only the last token has no width. -/
def read : Text → Token × Nat
  | [] => (.finish, 0)
  | c :: rest =>
    if c = '(' then (.openParen, 1)
    else if c = ')' then (.closeParen, 1)
    else if c = '&' then (.and, 1)
    else if c = '|' then (.or, 1)
    else if c = '"' then
      let q := quoted rest
      (.label q.1, q.2 + 1)
    else if Alphabet.isIdentifier c then
      let bare := (c :: rest).takeWhile Alphabet.isIdentifier
      (.label bare, bare.length)
    else (.stray c, 0)

@[simp] theorem read_nil : read [] = (.finish, 0) := rfl

theorem read_width_le (s : Text) : (read s).2 ≤ s.length := by
  cases s with
  | nil => simp
  | cons c rest =>
    have hq := quoted_width_le rest
    have ht := (List.takeWhile_sublist (l := c :: rest) Alphabet.isIdentifier).length_le
    unfold read
    repeat' split
    all_goals simp_all

theorem read_width_pos {s : Text} (h : (read s).1.isLast = false) : 0 < (read s).2 := by
  cases s with
  | nil => simp [isLast] at h
  | cons c rest =>
    by_cases hi : Alphabet.isIdentifier c
    · unfold read
      repeat' split
      all_goals simp_all
    · unfold read at h ⊢
      repeat' split
      all_goals simp_all [isLast]

end Token

end Clearance
