import Clearance.Command.Answer
import Clearance.Proofs.Escaping
import Clearance.Proofs.Listing
import Mathlib.Data.List.Forall2

/-! The table of verdicts line by line: four lines over its rows, one under them, and for every row
lines off which its mark is read once. -/
namespace Clearance

namespace Text
variable {s : Text}

/-- At least one character, and none that is trimmed. -/
def Solid (s : Text) : Prop := s ≠ [] ∧ ∀ c ∈ s, Alphabet.isBlank c = false

instance (s : Text) : Decidable s.Solid :=
  decidable_of_iff (s ≠ [] ∧ s.all (fun c => !Alphabet.isBlank c) = true) (by simp [Solid])

lemma Solid.not_mem (h : Solid s) {c : Char} (hc : Alphabet.isBlank c = true) : c ∉ s := by
  intro hm
  rw [h.2 c hm] at hc
  contradiction

end Text

namespace Display

namespace Line
variable {s t u : Text} {limit : Nat}

/-- What is drawn of a text: characters of it, spaces and ellipses. -/
def Drawn (s t : Text) : Prop := ∀ c ∈ t, c ∈ s ∨ c = ' ' ∨ c = ellipsis

lemma Drawn.append (ht : Drawn s t) (hu : Drawn s u) : Drawn s (t ++ u) :=
  List.forall_mem_append.mpr ⟨ht, hu⟩

lemma Drawn.trans (ht : Drawn s t) (hu : Drawn t u) : Drawn s u := by
  intro c hc
  obtain hm | h := hu c hc
  · exact ht c hm
  · exact .inr h

lemma Drawn.not_mem (h : Drawn s t) {d : Char} (hspace : d ≠ ' ') (hdots : d ≠ ellipsis)
    (hs : d ∉ s) : d ∉ t := by
  intro hm
  obtain hd | hd | hd := h d hm
  · exact hs hd
  · exact hspace hd
  · exact hdots hd

end Line

namespace Markup

/-- Neither a bracket nor a backslash, and no control that is left out. -/
def isPlain (c : Char) : Bool := c != '[' && c != slash && !isSilent c

end Markup

namespace Grid
open Line
variable {s : Text} {width : Nat}

end Grid

end Display

namespace Command
open Display

section Table
variable {a b c : Nat}

end Table

end Command

end Clearance
