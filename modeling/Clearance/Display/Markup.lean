import Clearance.Text

/-! Texts with tags in square brackets that ask for a style. Escaping makes a text stand for itself
between tags, as far as backslashes allow. -/
namespace Clearance.Display.Markup

/-- What makes a bracket open a tag. -/
def startsTag (c : Char) : Bool := ('a' ≤ c && c ≤ 'z') || c == '#' || c == '/' || c == '@'

/-- A tag-like piece at the front of a text, and what follows it: brackets around a first character
that starts a tag and others up to the closing bracket, no opening one among them. -/
def tag? : Text → Option (Text × Text)
  | '[' :: c :: rest =>
    if startsTag c then
      let body := rest.takeWhile fun d => d != '[' && d != ']'
      match rest.drop body.length with
      | ']' :: after => some ('[' :: c :: body ++ [']'], after)
      | _ => none
    else none
  | _ => none

theorem tag?_shorter {s piece after : Text} (h : tag? s = some (piece, after)) :
    after.length < s.length := by
  unfold tag? at h
  split at h
  · rename_i c rest
    split at h
    · dsimp only at h
      split at h
      · rename_i rest' he
        have hl := congrArg List.length he
        simp only [List.length_drop, List.length_cons] at hl
        simp only [Option.some.injEq, Prod.mk.injEq] at h
        rw [← h.2]
        simp only [List.length_cons]
        omega
      · simp at h
    · simp at h
  · simp at h

/-- A text is made of characters and of tag-like pieces with the backslashes directly before
them. -/
inductive Piece
  | char (c : Char)
  | tag (slashes : Nat) (piece : Text)
deriving DecidableEq, Repr

def slash : Char := Char.ofNat 0x5c

def isSlash (c : Char) : Bool := c == slash

def pieces (s : Text) : List Piece :=
  match s with
  | [] => []
  | c :: rest =>
    let run := ((c :: rest).takeWhile isSlash).length
    match _h : tag? ((c :: rest).drop run) with
    | some (piece, after) => .tag run piece :: pieces after
    | none => .char c :: pieces rest
termination_by s.length
decreasing_by
  · have hs := tag?_shorter _h
    simp only [List.length_drop, List.length_cons] at hs ⊢
    omega
  · simp only [List.length_cons]
    omega

@[simp] theorem pieces_nil : pieces [] = [] := by rw [pieces]

def slashes (n : Nat) : Text := List.replicate n slash

/-- One backslash before a tag-like piece takes its meaning away, once those before it are
doubled. -/
def Piece.escape : Piece → Text
  | .char c => [c]
  | .tag n piece => slashes (2 * n + 1) ++ piece

/-- A lone backslash at the end is doubled as well, so that it cannot take away the meaning of a
tag to follow. -/
def escape (s : Text) : Text :=
  let t := (pieces s).flatMap Piece.escape
  if t.getLast? = some slash ∧ t.dropLast.getLast? ≠ some slash then t ++ [slash] else t

/-- What is shown of the pieces of a text. Of the backslashes before a tag half are shown; the tag
itself is shown if one was left over, and else only asks for a style. A backslash before any other
opening bracket is not shown. -/
def shown : List Piece → Text
  | [] => []
  | .char c :: .char d :: rest =>
    if c = slash ∧ d = '[' then '[' :: shown rest else c :: shown (.char d :: rest)
  | .char c :: rest => c :: shown rest
  | .tag n piece :: rest =>
    slashes (n / 2) ++ (if n % 2 = 1 then piece else []) ++ shown rest

/-- Controls that ring, step back, feed a page or return the carriage are left out. -/
def isSilent (c : Char) : Bool :=
  c.toNat == 7 || c.toNat == 8 || c.toNat == 11 || c.toNat == 12 || c.toNat == 13

/-- The text that is shown for a marked-up one. -/
def render (s : Text) : Text := (shown (pieces s)).filter fun c => !isSilent c

/-- A text between an opening and a closing tag. -/
def styled (style : String) (s : Text) : Text :=
  ("[" ++ style ++ "]").toList ++ escape s ++ ("[/" ++ style ++ "]").toList

end Clearance.Display.Markup
