import Clearance.Number.Binary

/-! Numerals read from text: digits of a base, signs and decimal fractions. -/
namespace Clearance.Numeral

/-- The value of a digit, letters following the nine. -/
def digitValue? (c : Char) : Option Nat :=
  if '0' ≤ c ∧ c ≤ '9' then some (c.toNat - '0'.toNat)
  else if 'a' ≤ c ∧ c ≤ 'f' then some (c.toNat - 'a'.toNat + 10)
  else if 'A' ≤ c ∧ c ≤ 'F' then some (c.toNat - 'A'.toNat + 10)
  else none

def isDigit (base : Nat) (c : Char) : Bool :=
  match digitValue? c with
  | some d => d < base
  | none => false

/-- The number that digits write, the greatest place first. -/
def ofDigits (base : Nat) (digits : List Char) : Nat :=
  digits.foldl (fun n c => n * base + (digitValue? c).getD 0) 0

/-- A sign in front, if there is one; true is the minus. -/
def sign : List Char → Bool × List Char
  | '-' :: rest => (true, rest)
  | '+' :: rest => (false, rest)
  | s => (false, s)

def signed (negative : Bool) (n : Nat) : Int := if negative then -(n : Int) else n

/-- Digits, perhaps with a point among them, perhaps with an exponent after them. -/
def decimal? (s : List Char) : Option Binary :=
  let (negative, s) := sign s
  let whole := s.takeWhile (isDigit 10)
  let s := s.drop whole.length
  let (fraction, s) := match s with
    | '.' :: rest =>
      let digits := rest.takeWhile (isDigit 10)
      (digits, rest.drop digits.length)
    | s => ([], s)
  let number (exponent : Int) : Option Binary :=
    if whole.isEmpty && fraction.isEmpty then none
    else some (Binary.ofDecimal negative (ofDigits 10 (whole ++ fraction))
      (exponent - fraction.length))
  match s with
  | [] => number 0
  | e :: rest =>
    let (down, digits) := sign rest
    if (e = 'e' ∨ e = 'E') ∧ digits ≠ [] ∧ digits.all (isDigit 10) then
      number (signed down (ofDigits 10 digits))
    else none

/-- A decimal, or the name of a number that has none. -/
def binary? (s : List Char) : Option Binary :=
  if s = ['n', 'a', 'n'] then some .nan
  else if s = ['i', 'n', 'f'] then some (.infinite false)
  else if s = ['-', 'i', 'n', 'f'] then some (.infinite true)
  else decimal? s

end Clearance.Numeral
