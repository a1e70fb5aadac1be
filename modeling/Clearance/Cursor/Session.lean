import Clearance.Draft.Render
import Clearance.Parse

/-! One cursor shared by single reads, iterations and expressions, in any order. -/
namespace Clearance

/-- The place reached in a source, and which of the iterations started are still running, the
newest first. An iteration reads the shared cursor and stops for good at its last token. -/
structure Session where
  source : Text
  cursor : Cursor
  running : List Bool

inductive Request
  | next | position | source
  | drain
  | iterate
  | step (iteration : Nat)
  | parse
deriving DecidableEq, Repr

inductive Reply
  | token (p : Placed)
  | number (n : Nat)
  | text (s : Text)
  | tokens (ps : List Placed)
  | nothing
  | expression (e : Except Refusal Expr)

namespace Session

def start (source : Text) : Session := ⟨source, .start source, []⟩

/-- A step of a running iteration. The end of the text is not handed out; a stray character is. -/
def step (s : Session) (iteration : Nat) : Reply × Session :=
  if s.running[iteration]? = some true then
    let (p, c) := s.cursor.next
    let running := s.running.set iteration (!p.token.isLast)
    (if p.token = .finish then .nothing else .token p, { s with cursor := c, running })
  else (.nothing, s)

def answer (s : Session) : Request → Reply × Session
  | .next =>
    let (p, c) := s.cursor.next
    (.token p, { s with cursor := c })
  | .position => (.number s.cursor.position, s)
  | .source => (.text s.source, s)
  | .drain =>
    let (ps, c) := s.cursor.drain
    (.tokens ps, { s with cursor := c })
  | .iterate => (.nothing, { s with running := true :: s.running })
  | .step iteration => s.step iteration
  | .parse =>
    let (e, c) := Expr.parseFrom s.cursor
    (.expression e, { s with cursor := c })

/-- The replies to some requests in order, each with the position after it. -/
def answers (s : Session) : List Request → List (Reply × Nat)
  | [] => []
  | r :: rs =>
    let (reply, next) := s.answer r
    (reply, next.cursor.position) :: next.answers rs

end Session

end Clearance
