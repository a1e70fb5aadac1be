import Clearance.Alphabet.Width
import Clearance.Text

/-! How many cells a text takes. Characters are measured in order, for what stands before a
character may hide it or make it wider. -/
namespace Clearance.Display

/-- What the characters measured so far ask of the next one. -/
structure Gauge where
  /-- The last character that took a cell and was not yet made wider. -/
  last : Option Char
  /-- Whether the next character is drawn into the one before the joiner. -/
  joined : Bool
deriving DecidableEq, Repr

namespace Gauge

def fresh : Gauge := ⟨none, false⟩

/-- Hides the character after it. -/
def joiner : Char := Char.ofNat 0x200d

/-- Asks for the character before it as a picture. -/
def selector : Char := Char.ofNat 0xfe0f

/-- The cells that the next character adds. -/
def cells (g : Gauge) (c : Char) : Nat :=
  if g.joined || c == joiner then 0
  else if c == selector then (if g.last.any Alphabet.widens then 1 else 0)
  else Alphabet.cells c

/-- Characters without a cell of their own leave the one before them in place. -/
def next (g : Gauge) (c : Char) : Gauge :=
  if g.joined then { g with joined := false }
  else if c == joiner then { g with joined := true }
  else if c == selector then { g with last := none }
  else if Alphabet.cells c = 0 then g
  else { g with last := some c }

/-- The cells that a text adds. -/
def width (g : Gauge) : Text → Nat
  | [] => 0
  | c :: rest => g.cells c + (g.next c).width rest

/-- Whether a character starts a cluster of its own. -/
def starts (g : Gauge) (c : Char) : Bool :=
  !g.joined && c != joiner && c != selector && Alphabet.cells c != 0

/-- The clusters of a text that are drawn as one, with their widths. One has been started. -/
def clusters (g : Gauge) (cluster : Text) (size : Nat) : Text → List (Text × Nat)
  | [] => [(cluster, size)]
  | c :: rest =>
    if g.starts c then (cluster, size) :: (g.next c).clusters [c] (Alphabet.cells c) rest
    else (g.next c).clusters (cluster ++ [c]) (size + g.cells c) rest

end Gauge

/-- The cells that a text takes by itself. -/
def width (s : Text) : Nat := Gauge.fresh.width s

/-- A text in clusters. A joiner at its start hides nothing. -/
def clusters : Text → List (Text × Nat)
  | [] => []
  | c :: rest =>
    if c = Gauge.joiner then Gauge.fresh.clusters [c] 0 rest
    else (Gauge.fresh.next c).clusters [c] (Gauge.fresh.cells c) rest

end Clearance.Display
