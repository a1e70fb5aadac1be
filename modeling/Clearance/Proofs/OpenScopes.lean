import Clearance.Proofs.Brackets

/-! The stack of scopes holds what stands in the parentheses that are open, for whatever has been
read without a refusal. -/
namespace Clearance

namespace Nesting
variable {n n' : Nesting} {ps : List Placed}

/-- A token opens a scope, closes one or leaves their number as it is. -/
lemma count_of_feed {p : Placed} (h : n.feed p = .ok n') :
    n'.outer.length + [p.token].count .closeParen =
      n.outer.length + [p.token].count .openParen := by
  obtain ⟨inner, outer⟩ := n
  have hoperator : ∀ op : Connective, p.token = op.token → n'.outer = outer := by
    intro op ht
    rw [feed_operator ht] at h
    obtain ⟨s', _, hn⟩ := Refusal.bind_eq_ok_iff.mp h
    exact congrArg Nesting.outer (Except.ok.inj hn).symm
  cases ht : p.token with
  | label l =>
    obtain rfl := Except.ok.inj ((feed_label ht).symm.trans h)
    simp
  | openParen =>
    obtain rfl := Except.ok.inj ((feed_openParen ht).symm.trans h)
    simp
  | closeParen =>
    cases outer with
    | nil => simp [feed, ht] at h
    | cons s outer =>
      rw [feed_closeParen ht] at h
      obtain ⟨t, _, hn⟩ := Refusal.bind_eq_ok_iff.mp h
      obtain rfl := Except.ok.inj hn
      simp
  | and => simp [hoperator .and ht]
  | or => simp [hoperator .or ht]
  | finish =>
    obtain rfl : _ = n' := by simpa [feed, ht] using h
    simp
  | stray c => simp [feed, ht] at h

lemma count_of_feedAll (h : n.feedAll ps = .ok n') :
    n'.outer.length + (ps.map Placed.token).count .closeParen =
      n.outer.length + (ps.map Placed.token).count .openParen := by
  induction ps generalizing n with
  | nil =>
    obtain rfl := Except.ok.inj h
    rfl
  | cons p ps ih =>
    obtain ⟨n₁, hfirst, hrest⟩ := Refusal.bind_eq_ok_iff.mp h
    have h₁ := count_of_feed hfirst
    have h₂ := ih hrest
    rw [List.map_cons, ← List.singleton_append, List.count_append, List.count_append]
    omega

/-- Tokens are fed only as long as no parenthesis is closed that is not open. -/
lemma opensFirst_of_feedAll (h : Nesting.start.feedAll ps = .ok n) :
    Token.OpensFirst (ps.map Placed.token) := by
  rintro s ⟨more, hs⟩
  obtain ⟨qs, rs, rfl, rfl, _⟩ := List.map_eq_append_iff.mp hs.symm
  rw [feedAll_append] at h
  obtain ⟨n₁, hfirst, _⟩ := Refusal.bind_eq_ok_iff.mp h
  have hc := count_of_feedAll hfirst
  have hstart : Nesting.start.outer.length = 0 := rfl
  omega

lemma isLast_of_feedAll (h : n.feedAll ps = .ok n') (hp : ∀ p ∈ ps, p.token ≠ .finish) :
    ∀ t ∈ ps.map Placed.token, t.isLast = false := by
  induction ps generalizing n with
  | nil => simp
  | cons p ps ih =>
    obtain ⟨n₁, hfirst, hrest⟩ := Refusal.bind_eq_ok_iff.mp h
    obtain ⟨hpFirst, hpRest⟩ := List.forall_mem_cons.mp hp
    exact List.forall_mem_cons.mpr ⟨isLast_of_feed hfirst hpFirst, ih hrest hpRest⟩

/-- What a formula in open scopes leaves in the innermost one, and how many there are. -/
lemma of_feedAll_readTokens {f : Formula} {around : List Formula}
    (hp : ps.map Placed.token = readTokens f around) (h : Nesting.start.feedAll ps = .ok n) :
    f.gather .empty = .ok n.inner ∧ n.outer.length = around.length := by
  induction around generalizing f ps n with
  | nil =>
    rw [Nesting.start, feedAll_tokens f hp] at h
    obtain ⟨s, hg, hn⟩ := Refusal.bind_eq_ok_iff.mp h
    obtain rfl := Except.ok.inj hn
    exact ⟨hg, rfl⟩
  | cons g around ih =>
    obtain ⟨qs, rs, rfl, hqs, hrs⟩ := List.map_eq_append_iff.mp hp
    obtain ⟨p, rs, rfl, hopen, hrs⟩ := List.map_eq_cons_iff.mp hrs
    rw [feedAll_append] at h
    obtain ⟨n₁, hfirst, hrest⟩ := Refusal.bind_eq_ok_iff.mp h
    obtain ⟨_, hl⟩ := ih hqs hfirst
    rw [feedAll_cons_of_ok (feed_openParen hopen), feedAll_tokens f hrs] at hrest
    obtain ⟨s, hg, hn⟩ := Refusal.bind_eq_ok_iff.mp hrest
    obtain rfl := Except.ok.inj hn
    exact ⟨hg, by simp [hl]⟩

/-- Whatever has been read without a refusal, the state tells what stands in the open scopes. -/
theorem exists_readTokens_of_feedAll (h : Nesting.start.feedAll ps = .ok n)
    (hp : ∀ p ∈ ps, p.token ≠ .finish) :
    ∃ f around, readTokens f around = ps.map Placed.token ∧
      f.gather .empty = .ok n.inner ∧ n.outer.length = around.length := by
  obtain ⟨f, around, ht⟩ := exists_readTokens (isLast_of_feedAll h hp) (opensFirst_of_feedAll h)
  exact ⟨f, around, ht, of_feedAll_readTokens ht.symm h⟩

end Nesting

lemma Token.ne_finish_of_mem_stream {source : Text} {p : Placed} (hp : p ∈ Token.stream source) :
    p.token ≠ .finish := Cursor.ne_finish_of_mem_drain hp

/-- The brackets of an accepted text match, so it has a formula. -/
theorem Formula.exists_of_parse {source : Text} {e : Expr} (h : Expr.parse source = .ok e) :
    ∃ f : Formula, f.tokens = Token.list source := by
  rw [Expr.parse_eq] at h
  obtain ⟨n, hfeed, hclose⟩ := Refusal.bind_eq_ok_iff.mp h
  obtain ⟨f, around, ht, _, hl⟩ := Nesting.exists_readTokens_of_feedAll hfeed
    fun p hp => Token.ne_finish_of_mem_stream hp
  obtain ⟨inner, outer⟩ := n
  cases outer with
  | cons s outer => simp [Nesting.close] at hclose
  | nil =>
    obtain rfl := List.length_eq_zero_iff.mp hl.symm
    exact ⟨f, ht⟩

end Clearance
