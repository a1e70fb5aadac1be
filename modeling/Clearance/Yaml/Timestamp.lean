import Clearance.Moment
import Clearance.Number.Numeral
import Clearance.Yaml.Place

/-! Moments as documents write them: a day, or a day and a time, with or without a zone. -/
namespace Clearance.Yaml.Timestamp

/-- A number of so many digits, as many of them as there are, and what follows it. -/
def number (least most : Nat) (s : Text) : Option (Nat × Text) :=
  let digits := (s.take most).takeWhile Char.isDigit
  if least ≤ digits.length then some (Numeral.ofDigits 10 digits, s.drop digits.length) else none

def sign (c : Char) : Text → Option Text
  | d :: rest => if d = c then some rest else none
  | [] => none

/-- Six places of a fraction of a second. -/
def microseconds (digits : Text) : Nat :=
  Numeral.ofDigits 10 ((digits ++ List.replicate 6 '0').take 6)

/-- A zone to the end: the letter for the meridian, or a sign with hours and perhaps minutes. -/
def zone? : Text → Option Int
  | ['Z'] => some 0
  | c :: rest => do
    if c ≠ '+' ∧ c ≠ '-' then none
    let (hours, rest) ← number 1 2 rest
    let minutes ← if rest = [] then some 0 else do
      let (minutes, rest) ← number 2 2 (← sign ':' rest)
      if rest = [] then some minutes else none
    some (Numeral.signed (c = '-') (hours * 60 + minutes))
  | [] => none

/-- A time to the end. -/
def time? (s : Text) : Option (Clock × Option Int) := do
  let (hour, s) ← number 1 2 s
  let (minute, s) ← number 2 2 (← sign ':' s)
  let (second, s) ← number 2 2 (← sign ':' s)
  let (fraction, s) := match s with
    | '.' :: rest =>
      let digits := rest.takeWhile Char.isDigit
      (digits, rest.drop digits.length)
    | s => ([], s)
  let clock : Clock := ⟨hour, minute, second, microseconds fraction⟩
  if s = [] then some (clock, none)
  else some (clock, some (← zone? (s.dropWhile isWhite)))

/-- The moment that a text writes, whether there is such a moment or not. -/
def read? (s : Text) : Option Moment := do
  let (year, s) ← number 4 4 s
  let (month, s) ← number 1 2 (← sign '-' s)
  let (day, s) ← number 1 2 (← sign '-' s)
  let d : Day := ⟨year, month, day⟩
  match s with
  | [] => some (.day d)
  | c :: rest =>
    let rest ← if c = 'T' ∨ c = 't' then some rest
      else if isWhite c then some (rest.dropWhile isWhite)
      else none
    let (clock, ahead) ← time? rest
    some (.time d clock ahead)

/-- A day alone is only told from other texts when it is written with all its digits. -/
def isPlain (s : Text) : Bool :=
  match read? s with
  | some (.day _) => s.length = 10
  | some (.time _ _ _) => true
  | none => false

example : read? "2024-1-2 3:04:05.5 -1:30".toList =
    some (.time ⟨2024, 1, 2⟩ ⟨3, 4, 5, 500000⟩ (some (-90))) := by decide

end Clearance.Yaml.Timestamp
