import Clearance.Cursor
import Clearance.Scope

/-! Expressions read from text, by a stack of scopes with one for each open parenthesis. -/
namespace Clearance

/-- The innermost open scope, and those around it from the inside out. -/
structure Nesting where
  inner : Scope Label
  outer : List (Scope Label)

namespace Nesting

def start : Nesting := ⟨.empty, []⟩

/-- What a token adds. A stray character is refused with its position. -/
def feed (n : Nesting) (p : Placed) : Except Refusal Nesting :=
  match p.token with
  | .label l => .ok ⟨n.inner.addLabel l, n.outer⟩
  | .openParen => .ok ⟨.empty, n.inner :: n.outer⟩
  | .and => do
    let s ← n.inner.setOperator .and
    pure ⟨s, n.outer⟩
  | .or => do
    let s ← n.inner.setOperator .or
    pure ⟨s, n.outer⟩
  | .closeParen =>
    match n.outer with
    | [] => .error (.malformed .unmatchedClosing)
    | around :: outer => do
      let t ← n.inner.build
      pure ⟨around.addNode t, outer⟩
  | .stray c => .error (.stray c p.position)
  | .finish => .ok n

theorem isLast_of_feed {n n' : Nesting} {p : Placed} (h : n.feed p = .ok n')
    (hf : p.token ≠ .finish) : p.token.isLast = false := by
  cases ht : p.token with
  | finish => exact absurd ht hf
  | stray c => simp [feed, ht] at h
  | _ => rfl

/-- The tree when no token is left: every scope but the outermost must have been closed. -/
def close (n : Nesting) : Except Refusal Expr :=
  match n.outer with
  | [] => n.inner.build
  | _ :: _ => .error (.malformed .unclosed)

/-- Reads on from a place until the text ends or a token is refused, and says where that was. -/
def read (n : Nesting) (c : Cursor) : Except Refusal Expr × Cursor :=
  if hf : c.next.1.token = .finish then (n.close, c.next.2)
  else match hn : n.feed c.next.1 with
    | .error e => (.error e, c.next.2)
    | .ok n' =>
      have : c.next.2.rest.length < c.rest.length := Cursor.next_shorter (isLast_of_feed hn hf)
      n'.read c.next.2
termination_by c.rest.length

end Nesting

namespace Expr

/-- Reads an expression from a place on, and says where reading stopped. -/
def parseFrom (c : Cursor) : Except Refusal Expr × Cursor := Nesting.start.read c

/-- The tree of an expression text, or the first thing wrong with it. -/
def parse (source : Text) : Except Refusal Expr := (parseFrom (.start source)).1

end Expr

end Clearance
