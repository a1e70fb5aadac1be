import Clearance.Display.Gauge

/-! Lines of a display: tab stops, filling up and cutting to a width, and wrapping at words. -/
namespace Clearance.Display.Line

def spaces (n : Nat) : Text := List.replicate n ' '

/-- Parts of a line that were separated by tabs. Each tab is a space, and then more of them up to
the next multiple of eight cells. -/
def alignTabs (column : Nat) : List Text → Text
  | [] => []
  | [part] => part
  | part :: next :: parts =>
    let part := part ++ [' ']
    let column := column + width part
    let gap := (8 - column % 8) % 8
    part ++ spaces gap ++ alignTabs (column + gap) (next :: parts)

def expandTabs (line : Text) : Text := alignTabs 0 (Text.splitOn '\t' line)

/-- The lines of a text as they are shown. -/
def ofText (s : Text) : List Text := (Text.splitOn '\n' s).map expandTabs

def isBlank := Alphabet.isBlank

/-- The next word of a line, with the blanks around it; none if only blanks are left. -/
def word (s : Text) : Text :=
  let before := s.takeWhile isBlank
  let s := s.drop before.length
  let letters := s.takeWhile fun c => !isBlank c
  let after := (s.drop letters.length).takeWhile isBlank
  if letters = [] then [] else before ++ letters ++ after

/-- Cuts a line before words that would go over the width, but never inside a word. -/
def wrapWords (limit : Nat) : Nat → Nat → Text → Text → List Text
  | 0, _, line, rest => [line ++ rest]
  | fuel + 1, used, line, rest =>
    let w := word rest
    if w = [] then [line ++ rest]
    else
      let rest := rest.drop w.length
      let size := width (Text.dropEndWhile isBlank w)
      if used + size ≤ limit then wrapWords limit fuel (used + width w) (line ++ w) rest
      else if line ≠ [] ∧ (limit < size ∨ used ≠ 0) then
        line :: wrapWords limit fuel (width w) w rest
      else if limit < size then wrapWords limit fuel (width w) (line ++ w) rest
      else wrapWords limit fuel used (line ++ w) rest

/-- Blanks at the end that reach over the width are dropped. -/
def trimEnd (limit : Nat) (s : Text) : Text :=
  let blanks := s.length - (Text.dropEndWhile isBlank s).length
  s.take (s.length - min blanks (s.length - limit))

/-- The clusters at the start of a line that fit a width, with a space for the half of a cluster
that does not. -/
def fitting (limit : Nat) : List (Text × Nat) → Text
  | [] => []
  | (cluster, size) :: rest =>
    if size ≤ limit then
      if size < limit then cluster ++ fitting (limit - size) rest else cluster
    else spaces limit

def ellipsis : Char := Char.ofNat 0x2026

/-- A line that is too wide ends in an ellipsis. -/
def truncate (limit : Nat) (s : Text) : Text :=
  if width s ≤ limit then s
  else if limit ≤ 1 then [ellipsis]
  else fitting (limit - 1) (clusters s) ++ [ellipsis]

def fill (limit : Nat) (s : Text) : Text := s ++ spaces (limit - width s)

/-- Filled up to a width, once more if a joiner at the end hides a space. -/
def padRight (limit : Nat) (s : Text) : Text := fill limit (fill limit s)

/-- The room left over is shared out, the odd cell on the right. -/
def center (limit : Nat) (s : Text) : Text := padRight limit (spaces ((limit - width s) / 2) ++ s)

/-- A text in a column: its lines wrapped to the width. -/
def column (limit : Nat) (s : Text) : List Text :=
  (ofText s).flatMap fun line =>
    (wrapWords limit (line.length + 1) 0 [] line).map fun l => truncate limit (trimEnd limit l)

/-- Every separator of lines, not only the line feed. -/
def endsLine (c : Char) : Bool :=
  let n := c.toNat
  (0x0a ≤ n && n ≤ 0x0d) || (0x1c ≤ n && n ≤ 0x1e) || n == 0x85 || n == 0x2028 || n == 0x2029

/-- The widest of the lines of a text, of which the first has cells already. -/
def widest (g : Gauge) (used : Nat) : Text → Nat
  | [] => used
  | c :: rest =>
    if endsLine c then max used (widest .fresh 0 rest)
    else widest (g.next c) (used + g.cells c) rest

/-- The width a text asks for in a column: that of its widest line, tabs not counted. -/
def natural (s : Text) : Nat := widest .fresh 0 s

end Clearance.Display.Line
