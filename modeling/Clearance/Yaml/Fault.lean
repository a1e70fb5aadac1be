import Clearance.Moment
import Clearance.Text.Quoted

/-! What can be wrong with a document besides its form, and what is said of it. -/
namespace Clearance.Yaml

/-- Why a document has no value. -/
inductive Fault
  /-- It is not written as documents are, or asks for a value that there is not. -/
  | malformed
  /-- Digits of a base were looked for. -/
  | noInteger (base : Nat) (found : Text)
  /-- A decimal integer has more digits than are read. -/
  | tooManyDigits (count : Nat)
  | noFloat (found : Text)
  | emptyNumber
  /-- A number in base sixty has a place whose worth is out of range. -/
  | tooManyPlaces
  | noBoolean (found : Text)
  | noMoment
  /-- A moment is well written, but there is no such moment. -/
  | offCalendar (f : Moment.Fault)
  /-- An escape names a code point past the last character. -/
  | noCharacter
  /-- An escape names a code point that 31 bits do not hold. -/
  | noCodePoint
deriving DecidableEq, Repr

namespace Fault

/-- How many digits a decimal integer may have. -/
def mostDigits : Nat := 4300

/-- What is said of a value that cannot be. A malformed document is told of by where it stands. -/
def message? : Fault → Option String
  | malformed => none
  | noInteger base found =>
    some ("invalid literal for int() with base " ++ toString base ++ ": " ++
      String.ofList ((Text.Quoted.encode found).take 200))
  | tooManyDigits count =>
    some ("Exceeds the limit (" ++ toString mostDigits ++
      " digits) for integer string conversion: value has " ++ toString count ++
      " digits; use sys.set_int_max_str_digits() to increase the limit")
  | noFloat found =>
    some ("could not convert string to float: " ++ String.ofList (Text.Quoted.encode found))
  | emptyNumber => some "string index out of range"
  | tooManyPlaces => some "int too large to convert to float"
  | noBoolean found => some (String.ofList (Text.Quoted.encode found))
  | noMoment => some "'NoneType' object has no attribute 'groupdict'"
  | offCalendar f => some f.message
  | noCharacter => some "chr() arg not in range(0x110000)"
  | noCodePoint => some "Python int too large to convert to C int"

/-- Whether a command can tell of the fault: it lies in the document as a whole, or in a value that
looks like one and is none. -/
def isForeseen : Fault → Bool
  | malformed | noInteger _ _ | tooManyDigits _ | noFloat _ | offCalendar _ | noCharacter => true
  | emptyNumber | tooManyPlaces | noBoolean _ | noMoment | noCodePoint => false

/-- What is wrong with a code point that an escape names. -/
def ofCode? (n : Nat) : Option Fault :=
  if n < 0x110000 then none
  else if n < 0x80000000 then some noCharacter
  else some noCodePoint

end Fault

end Clearance.Yaml
