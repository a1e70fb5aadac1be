import Clearance.Text

/-! Bytes written with sixty-four signs, each of them for six bits. -/
namespace Clearance.Yaml.Bytes

def sixBits? (c : Char) : Option Nat :=
  if 'A' ≤ c ∧ c ≤ 'Z' then some (c.toNat - 'A'.toNat)
  else if 'a' ≤ c ∧ c ≤ 'z' then some (c.toNat - 'a'.toNat + 26)
  else if '0' ≤ c ∧ c ≤ '9' then some (c.toNat - '0'.toNat + 52)
  else if c = '+' then some 62
  else if c = '/' then some 63
  else none

/-- Four signs are three bytes. The bits left over from the last sign wait for the next one; end
signs fill up what is missing of the last four, and nothing is read after them. Other characters
are passed over. -/
def ofSigns? (place left ends : Nat) : Text → Option (List UInt8)
  | [] => if place = 0 then some [] else none
  | '=' :: rest =>
    if place < 2 then ofSigns? place left ends rest
    else if 4 ≤ place + (ends + 1) then some []
    else ofSigns? place left (ends + 1) rest
  | c :: rest =>
    match sixBits? c with
    | none => ofSigns? place left ends rest
    | some n =>
      match place with
      | 0 => ofSigns? 1 n 0 rest
      | 1 => (UInt8.ofNat (left * 4 + n / 16) :: ·) <$> ofSigns? 2 (n % 16) 0 rest
      | 2 => (UInt8.ofNat (left * 16 + n / 4) :: ·) <$> ofSigns? 3 (n % 4) 0 rest
      | _ => (UInt8.ofNat (left * 64 + n) :: ·) <$> ofSigns? 0 0 0 rest

/-- The bytes that a text of plain characters is written for, if the last four signs are whole. -/
def read? (s : Text) : Option (List UInt8) :=
  if s.all fun c => c.toNat < 0x80 then ofSigns? 0 0 0 s else none

example : read? "YWI=".toList = some [0x61, 0x62] ∧ read? "Y W\nI".toList = none := by decide

end Clearance.Yaml.Bytes
