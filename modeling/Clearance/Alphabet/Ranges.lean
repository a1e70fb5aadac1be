/-! Sets of code points written as increasing, disjoint, inclusive ranges. -/
namespace Clearance.Alphabet

abbrev Ranges := List (Nat × Nat)

/-- The ranges increase, so the search ends at the first one that starts after the code point. -/
def Ranges.holds : Ranges → Nat → Bool
  | [], _ => false
  | (low, high) :: rest, n => if n < low then false else n ≤ high || holds rest n

/-- The code points of an interval that have a property, as ranges that cannot be joined. -/
def Ranges.collect (p : Nat → Bool) (low high : Nat) : Ranges :=
  (List.range' low (high + 1 - low)).foldr (fun n found =>
    if p n then
      match found with
      | (a, b) :: rest => if a = n + 1 then (n, b) :: rest else (n, n) :: (a, b) :: rest
      | [] => [(n, n)]
    else found) []

example : Ranges.collect (· % 4 < 2) 1 6 = [(1, 1), (4, 5)] := by decide

end Clearance.Alphabet
