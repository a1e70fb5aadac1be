import Clearance.Text

/-! Paths of files: names joined by slashes. -/
namespace Clearance

/-- A relative path has no root. Two slashes make a root of their own. -/
structure Path where
  root : Text
  parts : List Text
deriving DecidableEq, Repr

namespace Path

def here : Text := ['.']

def parent : Text := ['.', '.']

/-- Repeated slashes count once, except two at the front, and parts that lead nowhere are left
out. -/
def ofText (s : Text) : Path :=
  let slashes := (s.takeWhile (· == '/')).length
  ⟨if slashes = 2 then ['/', '/'] else if slashes = 0 then [] else ['/'],
    (Text.splitOn '/' s).filter fun part => part != [] && part != here⟩

def text (p : Path) : Text :=
  if p.root = [] ∧ p.parts = [] then here else p.root ++ Text.join ['/'] p.parts

/-- The most bytes that a part of a path may take, and that a path may take as a whole. -/
def longestPart : Nat := 255

def longest : Nat := 4095

def isTooLong (limit : Nat) (s : Text) : Bool := limit < (String.ofList s).utf8ByteSize

/-- No path holds the null character. -/
def isSound (p : Path) : Bool := !p.text.contains (Char.ofNat 0)

def toString (p : Path) : String := String.ofList p.text

example : (ofText "./a//b/./c/".toList).text = "a/b/c".toList := by decide
example : (ofText []).text = here := by decide

end Path

end Clearance
