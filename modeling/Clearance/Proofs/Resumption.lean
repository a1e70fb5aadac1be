import Clearance.Proofs.Blame
import Clearance.Proofs.SharedCursor

/-! Expressions read from the middle of a source, and the place where each of them leaves it for the
next one. -/
namespace Clearance

/-- A refusal of a text as one of a longer text, in which it stands some characters further on. -/
def Refusal.shift (n : Nat) : Refusal → Refusal
  | .stray c position => .stray c (n + position)
  | r => r

def Placed.shift (n : Nat) (p : Placed) : Placed := ⟨p.token, n + p.position⟩

namespace Cursor

def shift (n : Nat) (c : Cursor) : Cursor := ⟨n + c.position, c.rest⟩

/-- Reading never looks back, so it is the same from any place with the same text ahead. -/
lemma next_shift (c : Cursor) (n : Nat) :
    (c.shift n).next = (c.next.1.shift n, c.next.2.shift n) := by
  simp [next, skip, advance, shift, Placed.shift, Nat.add_assoc]

end Cursor

namespace Nesting
variable {m m' : Nesting} {c : Cursor} {p : Placed} {r : Refusal}

lemma read_of_finish (h : c.next.1.token = .finish) : m.read c = (m.close, c.next.2) := by
  rw [read, dif_pos h]

lemma read_of_error (hf : c.next.1.token ≠ .finish) (h : m.feed c.next.1 = .error r) :
    m.read c = (.error r, c.next.2) := by
  rw [read, dif_neg hf]
  split <;> simp_all

lemma read_of_ok (hf : c.next.1.token ≠ .finish) (h : m.feed c.next.1 = .ok m') :
    m.read c = m'.read c.next.2 := by
  rw [read, dif_neg hf]
  split <;> simp_all

/-- The place of a token is told for a stray character only. -/
lemma malformed_of_feed (h : m.feed p = .error r) (hp : ∀ c, p.token ≠ .stray c) :
    ∃ fault, r = .malformed fault := by
  obtain ⟨inner, outer⟩ := m
  have hoperator : ∀ op : Connective, p.token = op.token → ∃ fault, r = .malformed fault := by
    intro op ht
    rw [feed_operator ht, Refusal.bind_ok_eq_error_iff] at h
    exact ⟨_, Scope.of_setOperator_error h⟩
  cases ht : p.token with
  | label l => simp [feed_label ht] at h
  | openParen => simp [feed_openParen ht] at h
  | closeParen =>
    cases outer with
    | nil => exact ⟨_, Except.error.inj (h.symm.trans (by simp [feed, ht]; rfl))⟩
    | cons around outer =>
      rw [feed_closeParen ht, Refusal.bind_ok_eq_error_iff] at h
      exact ⟨_, (Scope.build_eq_error_iff.mp h).1⟩
  | and => exact hoperator .and ht
  | or => exact hoperator .or ht
  | finish => simp [feed, ht] at h
  | stray c => exact absurd ht (hp c)

lemma malformed_of_close (h : m.close = .error r) : ∃ fault, r = .malformed fault := by
  obtain ⟨inner, outer⟩ := m
  cases outer with
  | nil => exact ⟨_, (Scope.build_eq_error_iff.mp h).1⟩
  | cons around outer => exact ⟨_, (Except.error.inj h).symm⟩

lemma feed_shift (m : Nesting) (n : Nat) (p : Placed) :
    m.feed (p.shift n) = (m.feed p).mapError (Refusal.shift n) := by
  by_cases hp : ∀ c, p.token ≠ .stray c
  · have hsame : m.feed (p.shift n) = m.feed p := by
      unfold feed
      cases ht : p.token with
      | stray c => exact absurd ht (hp c)
      | _ => simp [Placed.shift, ht]
    rw [hsame]
    cases h : m.feed p with
    | ok m' => rfl
    | error r =>
      obtain ⟨fault, rfl⟩ := malformed_of_feed h hp
      rfl
  · obtain ⟨c, ht⟩ := not_forall_not.mp hp
    simp [feed, Placed.shift, ht, Except.mapError, Refusal.shift]

theorem read_shift (m : Nesting) (n : Nat) (c : Cursor) : m.read (c.shift n) =
    ((m.read c).1.mapError (Refusal.shift n), (m.read c).2.shift n) := by
  fun_induction m.read c with
  | case1 m c hf =>
    have hnext := c.next_shift n
    rw [read_of_finish (by rw [hnext]; exact hf), hnext]
    cases h : m.close with
    | ok e => rfl
    | error r =>
      obtain ⟨fault, rfl⟩ := malformed_of_close h
      rfl
  | case2 m c hf r h =>
    have hnext := c.next_shift n
    have hfeed : m.feed (c.shift n).next.1 = .error (r.shift n) := by
      rw [hnext, feed_shift, h]
      rfl
    rw [read_of_error (by rw [hnext]; exact hf) hfeed, hnext]
    rfl
  | case3 m c hf m' h _ ih =>
    have hnext := c.next_shift n
    have hfeed : m.feed (c.shift n).next.1 = .ok m' := by
      rw [hnext, feed_shift, h]
      rfl
    rw [read_of_ok (by rw [hnext]; exact hf) hfeed, hnext, ih]

/-- Which tokens can be completed is told by the tokens alone, so it is told anywhere in a text. -/
lemma viable_iff_of_drain {ps qs : List Placed} (hs : c.drain.1 = ps ++ qs) :
    Token.Viable (ps.map Placed.token) ↔ ∃ n, Nesting.start.feedAll ps = .ok n := by
  have hstream : (Token.stream c.rest).map Placed.token =
      ps.map Placed.token ++ qs.map Placed.token := by
    rw [← List.map_append, ← hs]
    exact c.map_token_drain.symm
  obtain ⟨ps', qs', hs', hp, _⟩ := List.map_eq_append_iff.mp hstream
  rw [← hp, viable_iff hs']
  exact ⟨fun ⟨n, h⟩ => ⟨n, feedAll_congr hp h⟩, fun ⟨n, h⟩ => ⟨n, feedAll_congr hp.symm h⟩⟩

/-- When no token ahead is refused, all of the source is read. -/
lemma after_of_fed {source : Text} (hc : c.In source) (h : m.feedAll c.drain.1 = .ok m') :
    c.after (c.drain.1.length + 1) = ⟨source.length, []⟩ := by
  apply (hc.after _).eq_of_rest_eq_nil
  rw [← c.drain_place]
  apply c.laid_drain.rest_eq_nil
  intro p hp
  exact isLast_of_feedAll h (fun q hq => Cursor.ne_finish_of_mem_drain hq) _
    (List.mem_map_of_mem hp)

end Nesting

/-- The first token that no accepted text goes on with, after those it comes after, and what it is
refused for. -/
structure Token.Offends (before : List Token) (p : Placed) (r : Refusal) : Prop where
  viable : Viable before
  dead : ¬ Viable (before ++ [p.token])
  blames : Blames before p r

namespace Expr

/-- Where reading from a place of a source comes to its end: at the end of the source, with a tree
or because too little is there, or else at a stray character or after another token that is
refused. -/
inductive Stops (source : Text) (c : Cursor) : Except Refusal Expr → Cursor → Prop
  | tree {e} : Stops source c (.ok e) ⟨source.length, []⟩
  | short {r} (viable : Token.Viable (c.drain.1.map Placed.token))
      (falls : Token.FallsShort (c.drain.1.map Placed.token) r) :
      Stops source c (.error r) ⟨source.length, []⟩
  | stray {before after ch n} (ahead : c.drain.1 = before ++ ⟨.stray ch, n⟩ :: after)
      (offends : Token.Offends (before.map Placed.token) ⟨.stray ch, n⟩ (.stray ch n))
      (stands : source[n]? = some ch) : Stops source c (.error (.stray ch n)) ⟨n, source.drop n⟩
  | token {before after p w r} (ahead : c.drain.1 = before ++ p :: after)
      (offends : Token.Offends (before.map Placed.token) p r)
      (stands : source.drop p.position = w ++ source.drop (p.position + w.length))
      (taken : p.token.Taken w (source.drop (p.position + w.length))) :
      Stops source c (.error r) ⟨p.position + w.length, source.drop (p.position + w.length)⟩

variable {source : Text} {c : Cursor}

/-- A token that is refused is one that no accepted text goes on with. -/
lemma offends_of_feed {before after : List Placed} {p : Placed} {n : Nesting} {r : Refusal}
    (hs : c.drain.1 = before ++ p :: after) (hn : Nesting.start.feedAll before = .ok n)
    (hp : n.feed p = .error r) : Token.Offends (before.map Placed.token) p r := by
  have hfinish : ∀ q ∈ before, q.token ≠ .finish := fun q hq =>
    Cursor.ne_finish_of_mem_drain (c := c) (by rw [hs]; exact List.mem_append_left _ hq)
  obtain ⟨f, around, ht, hg, hl⟩ := Nesting.exists_readTokens_of_feedAll hn hfinish
  refine ⟨(Nesting.viable_iff_of_drain hs).mpr ⟨n, hn⟩, ?_, ht ▸ Nesting.blames_of_feed hg hl hp⟩
  intro hviable
  have hsnoc : c.drain.1 = (before ++ [p]) ++ after := by simp [hs]
  rw [← List.map_singleton, ← List.map_append, Nesting.viable_iff_of_drain hsnoc] at hviable
  obtain ⟨n', h⟩ := hviable
  rw [Nesting.feedAll_append, hn] at h
  change n.feed p >>= pure = .ok n' at h
  rw [bind_pure, hp] at h
  contradiction

theorem stops_parseFrom (hc : c.In source) : Stops source c (parseFrom c).1 (parseFrom c).2 := by
  obtain ⟨n, hall⟩ | ⟨before, p, after, n, r, hs, hn, hp⟩ :=
    Nesting.feedAll_cases Nesting.start c.drain.1
  · rw [parseFrom, Nesting.read_of_fed hall, Nesting.after_of_fed hc hall]
    cases h : n.close with
    | ok e => exact .tree
    | error r =>
      obtain ⟨f, around, ht, hg, hl⟩ := Nesting.exists_readTokens_of_feedAll hall
        fun p hp => Cursor.ne_finish_of_mem_drain hp
      exact .short ((Nesting.viable_iff_of_drain (List.append_nil _).symm).mpr ⟨n, hall⟩)
        (ht ▸ (Nesting.close_eq_error_iff hg hl).mp h)
  · have hoffends := offends_of_feed hs hn hp
    have hnext := Cursor.next_of_drain hs
    have hsteps := (c.after before.length).steps_next
    have hin := hc.after (before.length + 1)
    rw [hnext] at hsteps
    rw [parseFrom, Nesting.read_of_refused hs hn hp, hin.eq]
    cases hl : p.token.isLast with
    | false =>
      obtain ⟨w, hstands, htaken, hposition⟩ := hsteps.exists_taken (hc.after _) hl
      rw [← hin.drop_eq, hposition] at hstands htaken
      rw [hposition]
      exact .token hs hoffends hstands htaken
    | true =>
      obtain ⟨t, k⟩ := p
      cases t with
      | stray ch =>
        obtain ⟨hposition, hhead⟩ := hsteps.of_stray rfl
        obtain rfl : .stray ch k = r := by simpa [Nesting.feed] using hp
        rw [← hin.drop_eq, hposition, List.head?_drop] at hhead
        rw [hposition]
        exact .stray hs hoffends hhead
      | finish => simp [Nesting.feed] at hp
      | _ => contradiction

/-- Only what is ahead counts, and a position in it is told as one of the source. -/
theorem parseFrom_of_in (hc : c.In source) : (parseFrom c).1 =
    (parse (source.drop c.position)).mapError (Refusal.shift c.position) := by
  have hshift : c = (Cursor.start (source.drop c.position)).shift c.position := by
    rw [hc.drop_eq]
    rfl
  conv_lhs => rw [hshift, parseFrom, Nesting.read_shift]
  rfl

end Expr

namespace Session

lemma run_append (s : Session) (rs qs : List Request) : s.run (rs ++ qs) = (s.run rs).run qs := by
  induction rs generalizing s with
  | nil => rfl
  | cons r rs ih => exact ih _

/-- Wherever requests have led in a source, other expressions among them, an expression is read from
there as it is from the text ahead alone. It leaves the cursor where it stops, and all this holds
again from there. -/
theorem expression_of_run (source : Text) (rs : List Request) :
    let s := (start source).run rs
    let n := s.cursor.position
    s.cursor = ⟨n, source.drop n⟩ ∧
    ∃ result place, s.answer .parse = (.expression result, { s with cursor := place }) ∧
      result = (Expr.parse (source.drop n)).mapError (Refusal.shift n) ∧
      Expr.Stops source s.cursor result place ∧
      { s with cursor := place } = (start source).run (rs ++ [.parse]) := by
  intro s n
  have hin : s.cursor.In source := in_run (Cursor.in_start source) rs
  refine ⟨hin.eq, _, _, rfl, Expr.parseFrom_of_in hin, Expr.stops_parseFrom hin, ?_⟩
  rw [run_append]
  rfl

end Session

end Clearance
