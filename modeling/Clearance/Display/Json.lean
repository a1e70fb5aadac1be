import Clearance.Text
import Clearance.Value

/-! Plain data written as JSON in ASCII alone. -/
namespace Clearance.Display.Json

def hexDigit (n : Nat) : Char := if n < 10 then Char.ofNat (0x30 + n) else Char.ofNat (0x57 + n)

/-- A unit of sixteen bits as four digits after the sign for it. -/
def unit (n : Nat) : Text :=
  [Char.ofNat 0x5c, 'u', hexDigit (n / 0x1000 % 16), hexDigit (n / 0x100 % 16),
    hexDigit (n / 0x10 % 16), hexDigit (n % 16)]

/-- Characters above sixteen bits are split in two units. -/
def units (n : Nat) : Text :=
  if n < 0x10000 then unit n
  else unit (0xd800 + (n - 0x10000) / 0x400) ++ unit (0xdc00 + (n - 0x10000) % 0x400)

/-- The letters that stand for a character after a backslash. -/
def short : List (Nat × Char) :=
  [(0x22, Char.ofNat 0x22), (0x5c, Char.ofNat 0x5c), (0x0a, 'n'), (0x0d, 'r'), (0x09, 't'),
    (0x0c, 'f'), (0x08, 'b')]

def escape (c : Char) : Text :=
  match short.lookup c.toNat with
  | some letter => [Char.ofNat 0x5c, letter]
  | none => if 0x20 ≤ c.toNat ∧ c.toNat ≤ 0x7e then [c] else units c.toNat

def string (s : Text) : Text := '"' :: s.flatMap escape ++ ['"']

def key : Value → Text
  | .str s => string s.toList
  | v => string v.text.toList

def scalar : Value → Text
  | .null => "null".toList
  | .bool true => "true".toList
  | .bool false => "false".toList
  | .str s => string s.toList
  | v => v.text.toList

mutual
/-- How deep lists and mappings lie within each other. -/
def depth : Value → Nat
  | .list items => depthItems items + 1
  | .map entries => depthEntries entries + 1
  | _ => 0

def depthItems : List Value → Nat
  | [] => 0
  | v :: vs => max (depth v) (depthItems vs)

def depthEntries : List (Value × Value) → Nat
  | [] => 0
  | (_, v) :: rest => max (depth v) (depthEntries rest)
end

/-- A new line, two cells further in for every list or mapping around it. -/
def newline (level : Nat) : Text := '\n' :: List.replicate (2 * level) ' '

mutual
/-- One item or entry to a line, two cells further in than what holds it. -/
def pretty (level : Nat) : Value → Text
  | .list [] => ['[', ']']
  | .list (v :: vs) =>
    '[' :: newline (level + 1) ++ pretty (level + 1) v ++ prettyItems (level + 1) vs ++
      newline level ++ [']']
  | .map [] => ['\x7b', '\x7d']
  | .map ((k, v) :: rest) =>
    '\x7b' :: newline (level + 1) ++ key k ++ [':', ' '] ++ pretty (level + 1) v ++
      prettyEntries (level + 1) rest ++ newline level ++ ['\x7d']
  | v => scalar v

def prettyItems (level : Nat) : List Value → Text
  | [] => []
  | v :: vs => ',' :: newline level ++ pretty level v ++ prettyItems level vs

def prettyEntries (level : Nat) : List (Value × Value) → Text
  | [] => []
  | (k, v) :: rest =>
    ',' :: newline level ++ key k ++ [':', ' '] ++ pretty level v ++ prettyEntries level rest
end

mutual
/-- All on one line. -/
def line : Value → Text
  | .list items => '[' :: Text.join [',', ' '] (lineItems items) ++ [']']
  | .map entries => '\x7b' :: Text.join [',', ' '] (lineEntries entries) ++ ['\x7d']
  | v => scalar v

def lineItems : List Value → List Text
  | [] => []
  | v :: vs => line v :: lineItems vs

def lineEntries : List (Value × Value) → List Text
  | [] => []
  | (k, v) :: rest => (key k ++ [':', ' '] ++ line v) :: lineEntries rest
end

/-- The greatest depth that is printed. -/
def deepest : Nat := 950

/-- Data nested too deeply is not printed. -/
def print? (v : Value) : Option Text := if depth v ≤ deepest then some (pretty 0 v) else none

example : String.ofList
    (line (.map [(.str "a", .list [.int 1, .null]), (.str "\x7f", .bool true)])) =
    "\x7b\"a\": [1, null], \"\\u007f\": true\x7d" := by decide

end Clearance.Display.Json
