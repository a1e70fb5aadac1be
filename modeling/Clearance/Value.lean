import Clearance.Moment
import Clearance.Number.Binary
import Clearance.Text.Quoted

/-! Plain data: what configuration documents hold, and what stands in a tree where a node
should. -/
namespace Clearance

/-- Mappings keep the order of their entries, and any value can be a key. A mapping that stands in
several places may be told by a reference instead; as a rule there are none. -/
inductive Value (ρ : Type := Empty)
  | null
  | bool (b : Bool)
  | int (n : Int)
  | float (x : Binary)
  | str (s : String)
  /-- A string of code points that are not all characters: halves of surrogate pairs are among
  them. -/
  | codes (points : List Nat)
  | bytes (content : List UInt8)
  | moment (m : Moment)
  | list (items : List (Value ρ))
  /-- Items of a fixed number. -/
  | tuple (items : List (Value ρ))
  /-- Items in the order in which they are counted off. -/
  | set (items : List (Value ρ))
  | map (entries : List (Value ρ × Value ρ))
  | shared (r : ρ)
deriving Inhabited, Repr

namespace Value
variable {ρ : Type}

/-- Null, false, zero and what is empty do not count as true. -/
def truthy : Value → Bool
  | null => false
  | bool b => b
  | int n => n != 0
  | float x => !x.isZero
  | str s => s != ""
  | codes points => !points.isEmpty
  | bytes content => !content.isEmpty
  | moment _ => true
  | list items | tuple items | set items => !items.isEmpty
  | map entries => !entries.isEmpty

def typeName : Value ρ → String
  | null => "NoneType"
  | bool _ => "bool"
  | int _ => "int"
  | float _ => "float"
  | str _ | codes _ => "str"
  | bytes _ => "bytes"
  | moment m => m.kindName
  | list _ => "list"
  | tuple _ => "tuple"
  | set _ => "set"
  | map _ | shared _ => "dict"

/-- The name of a type where it is told in full. -/
def fullTypeName : Value ρ → String
  | moment m => "datetime." ++ m.kindName
  | v => v.typeName

/-- Three marks stand for each code point that is no character. -/
def repaired (points : List Nat) : String :=
  String.ofList (points.flatMap fun n =>
    if n.isValidChar then [Char.ofNat n] else List.replicate 3 (Char.ofNat 0xfffd))

mutual
/-- The value as messages show it. What lies in a shared mapping is left out. -/
def text : Value ρ → String
  | null => "None"
  | bool true => "True"
  | bool false => "False"
  | int n => toString n
  | float x => x.text
  | str s => String.ofList (Text.Quoted.encode s.toList)
  | codes points => String.ofList (Text.Quoted.encode (repaired points).toList)
  | bytes content => String.ofList (Text.Quoted.encodeBytes content)
  | moment m => m.text
  | list items => "[" ++ ", ".intercalate (texts items) ++ "]"
  | tuple [] => "()"
  | tuple [item] => "(" ++ item.text ++ ",)"
  | tuple (item :: next :: items) =>
    "(" ++ ", ".intercalate (item.text :: next.text :: texts items) ++ ")"
  | set [] => "set()"
  | set (item :: items) => "\x7b" ++ ", ".intercalate (item.text :: texts items) ++ "\x7d"
  | map entries => "\x7b" ++ ", ".intercalate (entryTexts entries) ++ "\x7d"
  | shared _ => "\x7b...\x7d"

def texts : List (Value ρ) → List String
  | [] => []
  | v :: vs => v.text :: texts vs

def entryTexts : List (Value ρ × Value ρ) → List String
  | [] => []
  | (k, v) :: rest => (k.text ++ ": " ++ v.text) :: entryTexts rest
end

/-- A key is looked up as a string; the first entry found is the one. -/
def find? (entries : List (Value ρ × Value ρ)) (key : String) : Option (Value ρ) :=
  match entries with
  | [] => none
  | (str s, v) :: rest => if s = key then some v else find? rest key
  | _ :: rest => find? rest key

/-- The entry of a key is replaced where it stands, or added at the end. -/
def put (entries : List (Value ρ × Value ρ)) (key : String) (value : Value ρ) :
    List (Value ρ × Value ρ) :=
  match entries with
  | [] => [(str key, value)]
  | (str s, v) :: rest =>
    if s = key then (str s, value) :: rest else (str s, v) :: put rest key value
  | entry :: rest => entry :: put rest key value

@[simp] theorem find?_put_self (entries : List (Value ρ × Value ρ)) (key : String)
    (value : Value ρ) : find? (put entries key value) key = some value := by
  fun_induction put entries key value with
  | case1 => simp [find?]
  | case2 => simp [find?]
  | case3 s v rest h ih => simp [find?, h, ih]
  | case4 entry rest h ih =>
    obtain ⟨k, v⟩ := entry
    cases k with
    | str s => exact absurd rfl (h s v)
    | _ => simpa [find?] using ih

theorem find?_put_of_ne (entries : List (Value ρ × Value ρ)) {key other : String}
    (value : Value ρ) (h : other ≠ key) :
    find? (put entries key value) other = find? entries other := by
  fun_induction put entries key value with
  | case1 => simp [find?, h.symm]
  | case2 => simp [find?, h.symm]
  | case3 s v rest hs ih => simp [find?, ih]
  | case4 entry rest hk ih =>
    obtain ⟨k, v⟩ := entry
    cases k with
    | str s => exact absurd rfl (hk s v)
    | _ => simpa [find?] using ih

/-- The number that a value is, or counts as: booleans count as zero and one. -/
def number? : Value ρ → Option (Int ⊕ Binary)
  | bool b => some (.inl (if b then 1 else 0))
  | int n => some (.inl n)
  | float x => some (match x.toInt? with | some n => .inl n | none => .inr x)
  | _ => none

/-- Keys are the same when they are equal texts, equal numbers, the same moment or both null. Lists,
sets and mappings are no keys. -/
def sameKey : Value ρ → Value ρ → Bool
  | null, null => true
  | str s, str t => s == t
  | codes ps, codes qs => ps == qs
  | bytes bs, bytes cs => bs == cs
  | moment m, moment n => m.same n
  | k, l => match k.number?, l.number? with
    | some m, some n => m == n
    | _, _ => false

/-- Of entries with the same key the last value counts, at the place and under the key of the
first. -/
def dictionary (entries : List (Value ρ × Value ρ)) : List (Value ρ × Value ρ) :=
  entries.foldl add []
where
  add (known : List (Value ρ × Value ρ)) (entry : Value ρ × Value ρ) :
      List (Value ρ × Value ρ) :=
    match known with
    | [] => [entry]
    | (k, v) :: rest =>
      if k.sameKey entry.1 then (k, entry.2) :: rest else (k, v) :: add rest entry

end Value

/-- What stands at a place in a document. A mapping that stands in several places is told by its
number at each of them. -/
abbrev Item := Value Nat

/-- What stands in a mapping of a document. -/
abbrev Entries := List (Item × Item)

end Clearance
