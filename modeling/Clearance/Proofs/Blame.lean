import Clearance.Proofs.Stack
import Clearance.Proofs.Viability

/-! Where reading fails and what is blamed: the first token with which no accepted text goes on, or
the end of a text that falls short. -/
namespace Clearance

namespace Nesting
variable {n n' : Nesting} {c : Cursor} {ps : List Placed}

lemma looks_of_fed (h : n.feedAll ps = .ok n') : n.looks ps = ps.length + 1 := by
  induction ps generalizing n with
  | nil => rfl
  | cons p ps ih =>
    obtain ⟨n₁, hfirst, hrest⟩ := Refusal.bind_eq_ok_iff.mp h
    rw [looks_cons_of_ok hfirst, ih hrest, List.length_cons]

lemma looks_of_refused {before : List Placed} {p : Placed} {r : Refusal}
    (hb : n.feedAll before = .ok n') (hp : n'.feed p = .error r) (after : List Placed) :
    n.looks (before ++ p :: after) = before.length + 1 := by
  induction before generalizing n with
  | nil =>
    obtain rfl := Except.ok.inj hb
    exact looks_cons_of_error hp after
  | cons q before ih =>
    obtain ⟨n₁, hfirst, hrest⟩ := Refusal.bind_eq_ok_iff.mp hb
    rw [List.cons_append, looks_cons_of_ok hfirst, ih hrest, List.length_cons]

/-- If no token is refused, all of them and the end are read. -/
lemma read_of_fed (h : n.feedAll c.drain.1 = .ok n') :
    n.read c = (n'.close, c.after (c.drain.1.length + 1)) := by
  rw [read_eq, looks_of_fed h, h]
  rfl

/-- The first token that is refused is the last one read. -/
lemma read_of_refused {before after : List Placed} {p : Placed} {r : Refusal}
    (hd : c.drain.1 = before ++ p :: after) (hb : n.feedAll before = .ok n')
    (hp : n'.feed p = .error r) : n.read c = (.error r, c.after (before.length + 1)) := by
  rw [read_eq, hd, looks_of_refused hb hp, feedAll_append, hb]
  show (n'.feedAll (p :: after) >>= close, _) = _
  rw [feedAll_cons_of_error hp]
  rfl

/-- Either all tokens are taken, or there is a first one that is refused. -/
lemma feedAll_cases (n : Nesting) (ps : List Placed) :
    (∃ n', n.feedAll ps = .ok n') ∨ ∃ before p after n' r, ps = before ++ p :: after ∧
      n.feedAll before = .ok n' ∧ n'.feed p = .error r := by
  induction ps generalizing n with
  | nil => exact .inl ⟨n, rfl⟩
  | cons p ps ih =>
    cases hn : n.feed p with
    | error r => exact .inr ⟨[], p, ps, n, r, rfl, rfl, hn⟩
    | ok n₁ =>
      obtain ⟨n', h⟩ | ⟨before, q, after, n', r, rfl, hb, hq⟩ := ih n₁
      · exact .inl ⟨n', by rw [feedAll_cons_of_ok hn, h]⟩
      · exact .inr ⟨p :: before, q, after, n', r, rfl, by rw [feedAll_cons_of_ok hn, hb], hq⟩

/-- Reading fails with a token or after all of them. -/
theorem read_eq_error_iff {c' : Cursor} {r : Refusal} : n.read c = (.error r, c') ↔
    (∃ before p after, c.drain.1 = before ++ p :: after ∧
      (∃ n', n.feedAll before = .ok n' ∧ n'.feed p = .error r) ∧
      c' = c.after (before.length + 1)) ∨
    ((∃ n', n.feedAll c.drain.1 = .ok n' ∧ n'.close = .error r) ∧
      c' = c.after (c.drain.1.length + 1)) := by
  constructor
  · intro h
    obtain ⟨n', hall⟩ | ⟨before, p, after, n', r', hd, hb, hp⟩ := feedAll_cases n c.drain.1
    · rw [read_of_fed hall, Prod.mk.injEq] at h
      exact .inr ⟨⟨n', hall, h.1⟩, h.2.symm⟩
    · rw [read_of_refused hd hb hp, Prod.mk.injEq] at h
      obtain rfl := Except.error.inj h.1
      exact .inl ⟨before, p, after, hd, ⟨n', hb, hp⟩, h.2.symm⟩
  · rintro (⟨before, p, after, hd, ⟨n', hb, hp⟩, rfl⟩ | ⟨⟨n', hall, hclose⟩, rfl⟩)
    · exact read_of_refused hd hb hp
    · rw [read_of_fed hall, hclose]

end Nesting

namespace Token

/-- A scope without any item, or with several and no operator. -/
def Lacking (content : List Token) : Prop :=
  items content = 0 ∨ 2 ≤ items content ∧ operators content = []

/-- What a token is refused for that comes after others. -/
inductive Blames (ts : List Token) (p : Placed) : Refusal → Prop
  | stray {c} (h : p.token = .stray c) : Blames ts p (.stray c p.position)
  | operator {op : Connective} (h : p.token = op.token) : Blames ts p (.malformed .mixedOperators)
  | unmatched (h : p.token = .closeParen) (open_none : ∀ content, ¬ Unclosed ts content) :
      Blames ts p (.malformed .unmatchedClosing)
  | missing {content} (h : p.token = .closeParen) (innermost : Unclosed ts content)
      (lacking : Lacking content) : Blames ts p (.malformed .missingOperator)

/-- What a text is refused for at its end. -/
inductive FallsShort (ts : List Token) : Refusal → Prop
  | unclosed {content} (innermost : Unclosed ts content) : FallsShort ts (.malformed .unclosed)
  | missing (open_none : ∀ content, ¬ Unclosed ts content) (lacking : Lacking ts) :
      FallsShort ts (.malformed .missingOperator)

/-- There is never a choice of what to blame: a closing parenthesis has a scope to close or not. -/
lemma Blames.unique {ts : List Token} {p : Placed} {r r' : Refusal} (h : Blames ts p r)
    (h' : Blames ts p r') : r = r' := by
  cases h <;> cases h' <;> grind [Connective.token_ne_closeParen, Connective.token_ne_stray]

end Token

namespace Scope
variable {α : Type} {s : Scope α} {r : Refusal}

lemma of_setOperator_error {kind : Token.Kind} (h : s.setOperator kind = .error r) :
    r = .malformed .mixedOperators := by
  unfold setOperator at h
  split at h
  · contradiction
  · split_ifs at h
    exact (Except.error.inj h).symm

lemma build_eq_error_iff : s.build = .error r ↔ r = .malformed .missingOperator ∧
    (s.items.length = 0 ∨ 2 ≤ s.items.length ∧ s.operator = none) := by
  unfold build
  cases s.items with
  | nil => simp [eq_comm]
  | cons first items =>
    cases items with
    | nil => simp
    | cons second rest => cases s.operator <;> simp [eq_comm]

end Scope

/-- What is lacking in a scope can be told from the tokens in it. -/
lemma Formula.build_eq_error_iff {f : Formula} {s : Scope Label} {r : Refusal}
    (h : f.gather .empty = .ok s) : s.build = .error r ↔
      r = .malformed .missingOperator ∧ Token.Lacking f.tokens := by
  have hr := reads_of_gather h
  have hlength : s.items.length = f.size := by simpa using hr.length_items
  have hoperator : s.operator = none ↔ f.operators = [] := by
    constructor
    · intro hn
      apply List.eq_nil_iff_forall_not_mem.mpr
      intro op hop
      have hd := hr.operator_eq.declares op hop
      rw [hn] at hd
      contradiction
    · exact fun hn => hr.operator_eq.idle hn
  simp [Scope.build_eq_error_iff, Token.Lacking, hlength, hoperator]

namespace Nesting
variable {n : Nesting} {f : Formula} {around : List Formula} {r : Refusal}

lemma blames_of_feed (hg : f.gather .empty = .ok n.inner) (hl : n.outer.length = around.length)
    {p : Placed} (h : n.feed p = .error r) : Token.Blames (readTokens f around) p r := by
  obtain ⟨inner, outer⟩ := n
  have hoperator : ∀ op : Connective, p.token = op.token →
      Token.Blames (readTokens f around) p r := by
    intro op ht
    rw [feed_operator ht, Refusal.bind_ok_eq_error_iff] at h
    rw [Scope.of_setOperator_error h]
    exact .operator ht
  cases ht : p.token with
  | label l => simp [feed_label ht] at h
  | openParen => simp [feed_openParen ht] at h
  | closeParen =>
    cases outer with
    | nil =>
      obtain rfl := List.length_eq_zero_iff.mp hl.symm
      obtain rfl : _ = r := by simpa [feed, ht] using h
      refine .unmatched ht ?_
      intro content hc
      exact (Formula.unclosed_readTokens_iff.mp hc).1 rfl
    | cons s outer =>
      have hne : around ≠ [] := List.ne_nil_of_length_eq_add_one hl.symm
      rw [feed_closeParen ht, Refusal.bind_ok_eq_error_iff] at h
      obtain ⟨rfl, hlack⟩ := (Formula.build_eq_error_iff hg).mp h
      exact .missing ht (Formula.unclosed_readTokens_iff.mpr ⟨hne, rfl⟩) hlack
  | and => exact hoperator .and ht
  | or => exact hoperator .or ht
  | finish => simp [feed, ht] at h
  | stray c =>
    obtain rfl : _ = r := by simpa [feed, ht] using h
    exact .stray ht

lemma close_eq_error_iff (hg : f.gather .empty = .ok n.inner)
    (hl : n.outer.length = around.length) :
    n.close = .error r ↔ Token.FallsShort (readTokens f around) r := by
  obtain ⟨inner, outer⟩ := n
  cases outer with
  | nil =>
    obtain rfl := List.length_eq_zero_iff.mp hl.symm
    have hnone : ∀ content, ¬ Token.Unclosed (readTokens f []) content :=
      fun content hc => (Formula.unclosed_readTokens_iff.mp hc).1 rfl
    show inner.build = .error r ↔ _
    rw [Formula.build_eq_error_iff hg]
    constructor
    · rintro ⟨rfl, hlack⟩
      exact .missing hnone hlack
    · rintro (⟨hc⟩ | ⟨_, hlack⟩)
      · exact absurd hc (hnone _)
      · exact ⟨rfl, hlack⟩
  | cons s outer =>
    have hne : around ≠ [] := List.ne_nil_of_length_eq_add_one hl.symm
    have hc : Token.Unclosed (readTokens f around) f.tokens :=
      Formula.unclosed_readTokens_iff.mpr ⟨hne, rfl⟩
    show Except.error (.malformed .unclosed) = .error r ↔ _
    constructor
    · intro h
      obtain rfl := Except.error.inj h
      exact .unclosed hc
    · rintro (_ | ⟨hnone, _⟩)
      · rfl
      · exact absurd hc (hnone _)

/-- A token is refused when it is the first one with which no accepted text goes on. -/
theorem refused_iff {source : Text} {before after : List Placed} {p : Placed}
    (hs : Token.stream source = before ++ p :: after) :
    (∃ n, Nesting.start.feedAll before = .ok n ∧ n.feed p = .error r) ↔
      Token.Viable (before.map Placed.token) ∧
      ¬ Token.Viable ((before ++ [p]).map Placed.token) ∧
      Token.Blames (before.map Placed.token) p r := by
  have hs' : Token.stream source = (before ++ [p]) ++ after := by simp [hs]
  have hfinish : ∀ q ∈ before, q.token ≠ .finish :=
    fun q hq => Token.ne_finish_of_mem_stream (by rw [hs]; exact List.mem_append_left _ hq)
  have hsnoc : ∀ {n}, Nesting.start.feedAll before = .ok n →
      Nesting.start.feedAll (before ++ [p]) = n.feed p := by
    intro n hn
    rw [feedAll_append, hn]
    show n.feed p >>= pure = _
    rw [bind_pure]
  have hblames : ∀ {n r}, Nesting.start.feedAll before = .ok n → n.feed p = .error r →
      Token.Blames (before.map Placed.token) p r := by
    intro n r hn hp
    obtain ⟨f, around, ht, hg, hl⟩ := exists_readTokens_of_feedAll hn hfinish
    exact ht ▸ blames_of_feed hg hl hp
  rw [viable_iff hs, viable_iff hs']
  constructor
  · rintro ⟨n, hn, hp⟩
    refine ⟨⟨n, hn⟩, ?_, hblames hn hp⟩
    rintro ⟨n', h⟩
    rw [hsnoc hn, hp] at h
    contradiction
  · rintro ⟨⟨n, hn⟩, hdead, hb⟩
    refine ⟨n, hn, ?_⟩
    cases hp : n.feed p with
    | ok n' => exact absurd ⟨n', (hsnoc hn).trans hp⟩ hdead
    | error r' => rw [(hblames hn hp).unique hb]

/-- A text that can be completed is refused at its end when it falls short. -/
theorem unfinished_iff {source : Text} :
    (∃ n, Nesting.start.feedAll (Token.stream source) = .ok n ∧ n.close = .error r) ↔
      Token.Viable (Token.list source) ∧ Token.FallsShort (Token.list source) r := by
  have hclose : ∀ {n}, Nesting.start.feedAll (Token.stream source) = .ok n →
      (n.close = .error r ↔ Token.FallsShort (Token.list source) r) := by
    intro n hn
    obtain ⟨f, around, ht, hg, hl⟩ := exists_readTokens_of_feedAll hn
      fun p hp => Token.ne_finish_of_mem_stream hp
    rw [Token.list, ← ht]
    exact close_eq_error_iff hg hl
  rw [Token.list, viable_iff (List.append_nil _).symm]
  constructor
  · rintro ⟨n, hn, h⟩
    exact ⟨⟨n, hn⟩, (hclose hn).mp h⟩
  · rintro ⟨⟨n, hn⟩, h⟩
    exact ⟨n, hn, (hclose hn).mpr h⟩

end Nesting

namespace Expr

/-- Reading fails at the first token with which no accepted text goes on, and blames that token, or
else at the end of a text that falls short; nothing is read after that. Nothing else can go wrong,
even on a bare stack. -/
theorem parseFrom_eq_error_iff (source : Text) :
    (∀ r c, parseFrom (.start source) = (.error r, c) ↔
      (∃ before p after, Token.stream source = before ++ p :: after ∧
        (Token.Viable (before.map Placed.token) ∧
          ¬ Token.Viable ((before ++ [p]).map Placed.token) ∧
          Token.Blames (before.map Placed.token) p r) ∧
        c = (Cursor.start source).after (before.length + 1)) ∨
      ((Token.Viable (Token.list source) ∧ Token.FallsShort (Token.list source) r) ∧
        c = (Cursor.start source).after ((Token.stream source).length + 1))) ∧
    Stack.read [.empty] (Token.stream source) = (parse source).mapError Mishap.refused := by
  refine ⟨?_, stack_read source⟩
  intro r c
  rw [parseFrom, Nesting.read_eq_error_iff, ← Nesting.unfinished_iff]
  apply or_congr_left
  constructor
  · rintro ⟨before, p, after, hs, hrefused, hc⟩
    exact ⟨before, p, after, hs, (Nesting.refused_iff hs).mp hrefused, hc⟩
  · rintro ⟨before, p, after, hs, hdead, hc⟩
    exact ⟨before, p, after, hs, (Nesting.refused_iff hs).mpr hdead, hc⟩

/-- The second operator comes before the stray character and the parenthesis left open. -/
example : parse "a | (b & c | d $ e".toList = .error (.malformed .mixedOperators) := by cbv

end Expr

end Clearance
