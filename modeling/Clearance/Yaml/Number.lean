import Clearance.Alphabet.Letter
import Clearance.Number.Numeral
import Clearance.Yaml.Fault

/-! Numbers as documents write them: what looks like one, and which number a text is read as. What
looks like a number is read as one, unless it has no digits or too many of them; other texts are
read when a tag asks for it. -/
namespace Clearance.Yaml.Number

def isDigitOr_ (base : Nat) (c : Char) : Bool := Numeral.isDigit base c || c == '_'

def clean (s : Text) : Text := s.filter (· != '_')

/-- A part of a number in base sixty: one digit, or two up to 59. -/
def isSixtieth : Text → Bool
  | [c] => c.isDigit
  | [c, d] => '0' ≤ c && c ≤ '5' && d.isDigit
  | _ => false

/-- Parts between colons: the first has digits of its own, the others count up to 59. -/
def isSixty (s : Text) : Bool :=
  match Text.splitOn ':' s with
  | first :: second :: rest =>
    first.head?.any Char.isDigit && first.all (isDigitOr_ 10) && (second :: rest).all isSixtieth
  | _ => false

/-- Integers are decimal, binary, octal after a zero, hexadecimal or in base sixty. -/
def looksInteger (s : Text) : Bool :=
  match (Numeral.sign s).2 with
  | ['0'] => true
  | '0' :: 'b' :: digits => digits != [] && digits.all (isDigitOr_ 2)
  | '0' :: 'x' :: digits => digits != [] && digits.all (isDigitOr_ 16)
  | '0' :: digits => digits.all (isDigitOr_ 8)
  | c :: rest => c.isDigit && (rest.all (isDigitOr_ 10) || isSixty (c :: rest))
  | [] => false

/-- Floats have a point, and a sign in the exponent if there is one. In base sixty the last part has
the point. -/
def looksFloat (s : Text) : Bool :=
  let t := (Numeral.sign s).2
  let name := String.ofList t
  if name ∈ [".inf", ".Inf", ".INF"] then true
  else if t = s ∧ name ∈ [".nan", ".NaN", ".NAN"] then true
  else
    let whole := t.takeWhile (· != '.')
    match t.drop whole.length with
    | '.' :: rest =>
      let fraction := rest.takeWhile (isDigitOr_ 10)
      let startsWell :=
        whole.all (isDigitOr_ 10) &&
          (if whole = [] then t = s && fraction.head?.any Char.isDigit
            else whole.head?.any Char.isDigit)
      match rest.drop fraction.length with
      | [] => startsWell || isSixty whole
      | e :: sign :: digits =>
        startsWell && (e == 'e' || e == 'E') && (sign == '+' || sign == '-') && digits != [] &&
          digits.all Char.isDigit
      | _ => false
    | _ => false

/-- Blanks around a number do not count, unless they are information separators, and digits may be
those of any script. -/
def plain (s : Text) : Text :=
  let around (c : Char) : Bool := Alphabet.isBlank c && !(0x1c ≤ c.toNat && c.toNat ≤ 0x1f)
  (Text.dropEndWhile around (s.dropWhile around)).map Alphabet.plainDigit

/-- A mark of its own that digits of some bases may have. -/
def mark? : Nat → Option Char
  | 2 => some 'b'
  | 8 => some 'o'
  | 16 => some 'x'
  | _ => none

def dropMark (base : Nat) : Text → Text
  | '0' :: c :: rest => if mark? base = some c.toLower then rest else '0' :: c :: rest
  | s => s

/-- Digits of a base with a sign. Decimal digits are read up to a number of them. -/
def digits (base : Nat) (s : Text) : Except Fault Int :=
  let (negative, t) := Numeral.sign (plain s)
  let t := dropMark base t
  let run := t.takeWhile (Numeral.isDigit base)
  if base = 10 ∧ Fault.mostDigits < run.length then .error (.tooManyDigits run.length)
  else if run = t ∧ t ≠ [] then .ok (Numeral.signed negative (Numeral.ofDigits base t))
  else .error (.noInteger base s)

/-- The first part of a number in base sixty counts most. -/
def sixty (parts : List Text) : Except Fault Int :=
  (parts.mapM (digits 10)).map fun values => values.foldl (fun n part => n * 60 + part) 0

/-- The integer that a text is read as. -/
def integer (s : Text) : Except Fault Int :=
  match clean s with
  | [] => .error .emptyNumber
  | t =>
    let (negative, t) := Numeral.sign t
    let size : Except Fault Int := match t with
      | [] => .error .emptyNumber
      | '0' :: 'b' :: rest => digits 2 rest
      | '0' :: 'x' :: rest => digits 16 rest
      | '0' :: _ => digits 8 t
      | _ => if t.contains ':' then sixty (Text.splitOn ':' t) else digits 10 t
    size.map fun n => if negative then -n else n

/-- A decimal with or without a point, or the name of a number that has none. -/
def decimal (s : Text) : Except Fault Binary :=
  let t := plain s
  let (negative, size) := Numeral.sign t
  let name := String.ofList size
  if name ∈ ["inf", "infinity"] then .ok (.infinite negative)
  else if name = "nan" then .ok .nan
  else match Numeral.decimal? t with
    | some x => .ok x
    | none => .error (.noFloat s)

/-- The sum of parts in base sixty, the last part first. Each product and each sum is rounded. -/
def sixtiethSum (total : Binary) (worth : Nat) : List Binary → Except Fault Binary
  | [] => .ok total
  | part :: parts =>
    match Binary.ofRatio false worth 1 with
    | .finite s m e => sixtiethSum (total.add (part.mul (.finite s m e))) (worth * 60) parts
    | _ => .error .tooManyPlaces

/-- The float that a text is read as. -/
def float (s : Text) : Except Fault Binary :=
  match (clean s).map Char.toLower with
  | [] => .error .emptyNumber
  | t =>
    let (negative, t) := Numeral.sign t
    let name := String.ofList t
    let size : Except Fault Binary := if name = ".inf" then .ok (.infinite false)
      else if name = ".nan" then .ok .nan
      else if t.contains ':' then do
        let parts ← (Text.splitOn ':' t).mapM decimal
        sixtiethSum (.finite false 0 Binary.leastExponent) 1 parts.reverse
      else decimal t
    size.map fun x => if negative then x.negate else x

end Clearance.Yaml.Number
