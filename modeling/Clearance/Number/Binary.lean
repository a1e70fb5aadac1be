/-! Binary floating-point numbers of 64 bits, in exact arithmetic: rounding a fraction to the
nearest one, and the shortest decimal that reads back. -/
namespace Clearance

/-- A finite number is the mantissa times a power of two. Mantissas stay below 2 ^ 53, and reach
2 ^ 52 unless the exponent is the least one. -/
inductive Binary
  | finite (negative : Bool) (mantissa : Nat) (exponent : Int)
  | infinite (negative : Bool)
  | nan
deriving DecidableEq, Repr

namespace Binary

/-- A power, or one if the exponent is negative. -/
def power (base : Nat) (exponent : Int) : Nat := Nat.pow base exponent.toNat

def leastExponent : Int := -1074

def greatestExponent : Int := 971

/-- The quotient rounded to the nearest number, a half to the even one. -/
def roundDiv (num den : Nat) : Nat :=
  let q := num / den
  let r := num % den
  if 2 * r < den then q else if den < 2 * r then q + 1 else q + q % 2

/-- Whether a fraction lies below the power of two. -/
def below (num den : Nat) (e : Int) : Bool := num * power 2 (-e) < den * power 2 e

/-- The nearest number to a fraction. -/
def ofRatio (negative : Bool) (num den : Nat) : Binary :=
  if num = 0 then finite negative 0 leastExponent
  else
    let guess : Int := num.log2 - den.log2
    let top := if below num den guess then guess - 1 else guess
    let e := max leastExponent (top - 52)
    let m := roundDiv (num * power 2 (-e)) (den * power 2 e)
    let (m, e) := if m = power 2 53 then (power 2 52, e + 1) else (m, e)
    if greatestExponent < e then infinite negative else finite negative m e

/-- Decimals beyond these powers of ten are out of range whatever their digits. -/
def ofDecimal (negative : Bool) (digits : Nat) (exponent : Int) : Binary :=
  let magnitude := exponent + (toString digits).length
  if digits = 0 then finite negative 0 leastExponent
  else if 310 < magnitude then infinite negative
  else if magnitude < -330 then finite negative 0 leastExponent
  else ofRatio negative (digits * power 10 exponent) (power 10 (-exponent))

def negate : Binary → Binary
  | finite negative m e => finite (!negative) m e
  | infinite negative => infinite (!negative)
  | nan => nan

/-- The sum rounded to the nearest number. A sum of nothing is negative if both parts are. -/
def add : Binary → Binary → Binary
  | finite s m e, finite t n f =>
    let low := min e f
    let part (negative : Bool) (size : Nat) : Int := if negative then -(size : Int) else size
    let total := part s (m * power 2 (e - low)) + part t (n * power 2 (f - low))
    if total = 0 then finite (s && t) 0 leastExponent
    else ofRatio (total < 0) (total.natAbs * power 2 low) (power 2 (-low))
  | nan, _ | _, nan => nan
  | infinite s, infinite t => if s = t then infinite s else nan
  | infinite s, finite _ _ _ | finite _ _ _, infinite s => infinite s

/-- The product rounded to the nearest number. -/
def mul : Binary → Binary → Binary
  | finite s m e, finite t n f =>
    ofRatio (s != t) (m * n * power 2 (e + f)) (power 2 (-(e + f)))
  | nan, _ | _, nan => nan
  | infinite s, infinite t => infinite (s != t)
  | infinite s, finite t m _ | finite t m _, infinite s => if m = 0 then nan else infinite (s != t)

/-- A tenth and two tenths do not make three. -/
example : (ofDecimal false 1 (-1)).add (ofDecimal false 2 (-1)) =
    ofDecimal false 30000000000000004 (-17) := by decide

def isZero : Binary → Bool
  | finite _ m _ => m = 0
  | _ => false

/-- The integer that the number is, if it is one. -/
def toInt? : Binary → Option Int
  | finite negative m e =>
    let size : Option Nat :=
      if 0 ≤ e then some (m * power 2 e)
      else if m % power 2 (-e) = 0 then some (m / power 2 (-e))
      else none
    size.map fun n => if negative then -(n : Int) else n
  | _ => none

/-- The count of digits before the decimal point, or minus the count of zeros after it. -/
def pointPlace (num den : Nat) : Int :=
  let guess := (num.log2 - den.log2 - 1 : Int) * 30103 / 100000
  let reached (d : Int) : Bool := den * power 10 d ≤ num * power 10 (-d)
  ((List.range 4).map fun (i : Nat) => guess + i).find? (fun d => !reached d) |>.getD (guess + 4)

/-- The digits and the place of the point of the shortest decimal that reads back as the number
with this mantissa and exponent, the nearest such one if there are several. -/
def shortest (m : Nat) (e : Int) : Nat × Int :=
  let up := power 2 (e - 2)
  let den := power 2 (2 - e)
  let value := 4 * m * up
  let low := (if m = power 2 52 ∧ leastExponent < e then 4 * m - 1 else 4 * m - 2) * up
  let high := (4 * m + 2) * up
  let point := pointPlace value den
  let onGrid (n : Nat) : Option (Nat × Int) :=
    let k := point - n
    let num (x : Nat) := x * power 10 (-k)
    let unit := den * power 10 k
    let readsBack (c : Nat) : Bool :=
      if m % 2 = 0 then num low ≤ c * unit && c * unit ≤ num high
      else num low < c * unit && c * unit < num high
    let c := num value / unit
    let nearer := roundDiv (num value) unit
    let other := if nearer = c then c + 1 else c
    if readsBack nearer then some (nearer, k)
    else if readsBack other then some (other, k)
    else none
  (((List.range 17).map (· + 1)).findSome? onGrid).getD (0, 0)

/-- Positional between 10 ^ -4 and 10 ^ 16, with at least one digit after the point; otherwise
scientific, with a sign and at least two digits in the exponent. -/
def layout (digits : List Char) (point : Int) : List Char :=
  let n : Int := digits.length
  let zeros (k : Int) : List Char := List.replicate k.toNat '0'
  if -4 < point ∧ point ≤ 16 then
    if point ≤ 0 then ['0', '.'] ++ zeros (-point) ++ digits
    else if n ≤ point then digits ++ zeros (point - n) ++ ['.', '0']
    else digits.take point.toNat ++ ['.'] ++ digits.drop point.toNat
  else
    let exponent := point - 1
    let size := (toString exponent.natAbs).toList
    let fraction := if digits.length ≤ 1 then [] else '.' :: digits.drop 1
    digits.take 1 ++ fraction ++ ['e', if exponent < 0 then '-' else '+'] ++
      (if size.length < 2 then '0' :: size else size)

def text : Binary → String
  | finite negative m e =>
    let body :=
      if m = 0 then ['0', '.', '0']
      else
        let (c, k) := shortest m e
        let full := (toString c).toList
        layout (full.reverse.dropWhile (· == '0')).reverse (k + full.length)
    String.ofList (if negative then '-' :: body else body)
  | infinite negative => if negative then "-inf" else "inf"
  | nan => "nan"

end Binary

end Clearance
