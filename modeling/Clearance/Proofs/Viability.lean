import Clearance.Proofs.OpenScopes

/-! Tokens that some accepted text starts with. Reading refuses none of those, and whatever has been
read without a refusal can be completed. -/
namespace Clearance

namespace Token

/-- The tokens of an accepted text. -/
def Accepted (ts : List Token) : Prop :=
  ∃ source e, list source = ts ∧ Expr.parse source = .ok e

/-- Tokens that an accepted text can start with. -/
def Viable (ts : List Token) : Prop := ∃ more, Accepted (ts ++ more)

end Token

namespace Scope

/-- Several items are built if there is an operator, whatever it is. -/
lemma exists_build {s : Scope Label} {kind : Token.Kind} (hi : s.items ≠ [])
    (ho : s.operator = some kind) : ∃ t, s.build = .ok t := by
  obtain ⟨first, items, hs⟩ := List.exists_cons_of_ne_nil hi
  unfold build
  rw [hs, ho]
  cases items with
  | nil => exact ⟨first, rfl⟩
  | cons second rest => exact ⟨_, rfl⟩

/-- What a scope can be completed with: a label, after an operator if it has none. -/
def remedy (s : Scope Label) : Formula :=
  if s.operator = none then .operator .and (.label [] .nil) else .label [] .nil

lemma spelled_of_mem_remedy (s : Scope Label) :
    ∀ t ∈ s.remedy.tokens, t.Spelled t.spelling := by
  apply Formula.spelled_of_mem_tokens
  intro l hl
  have hempty : l = [] := by
    unfold remedy at hl
    split at hl <;> simpa [Formula.labels] using hl
  rw [hempty]
  rfl

lemma exists_gather_remedy (s : Scope Label) :
    ∃ s' t, s.remedy.gather s = .ok s' ∧ s'.build = .ok t := by
  cases ho : s.operator with
  | none =>
    have hs : s.setOperator .and = .ok { s with operator := some .and } :=
      setOperator_eq_ok_iff.mpr ⟨rfl, by simp [ho]⟩
    obtain ⟨t, ht⟩ := exists_build
      (s := ({ s with operator := some .and } : Scope Label).addLabel []) (by simp) rfl
    refine ⟨_, t, ?_, ht⟩
    rw [remedy, if_pos ho]
    exact Refusal.bind_eq_ok_iff.mpr ⟨_, hs, rfl⟩
  | some kind =>
    obtain ⟨t, ht⟩ := exists_build (s := s.addLabel []) (by simp) ho
    refine ⟨_, t, ?_, ht⟩
    rw [remedy, if_neg (by simp [ho])]
    rfl

end Scope

/-- A token without regard to where it stands. -/
def Token.placed (t : Token) : Placed := ⟨t, 0⟩

@[simp] lemma Token.map_token_placed (ts : List Token) :
    (ts.map Token.placed).map Placed.token = ts := by
  rw [List.map_map]
  exact List.map_id' ts

namespace Nesting
variable {n n' : Nesting} {ps qs : List Placed}

/-- Only a refusal tells where a token stands. -/
lemma feed_congr {p q : Placed} (h : p.token = q.token) (hn : n.feed p = .ok n') :
    n.feed q = .ok n' := by
  rw [← hn]
  unfold feed
  rw [← h]
  cases ht : p.token with
  | stray c => simp [feed, ht] at hn
  | _ => rfl

lemma feedAll_congr (h : ps.map Placed.token = qs.map Placed.token)
    (hn : n.feedAll ps = .ok n') : n.feedAll qs = .ok n' := by
  induction ps generalizing n qs with
  | nil =>
    obtain rfl := List.map_eq_nil_iff.mp h.symm
    exact hn
  | cons p ps ih =>
    obtain ⟨q, qs, rfl, hq, hqs⟩ := List.map_eq_cons_iff.mp h.symm
    obtain ⟨n₁, hfirst, hrest⟩ := Refusal.bind_eq_ok_iff.mp hn
    rw [feedAll_cons_of_ok (feed_congr hq.symm hfirst)]
    exact ih hqs.symm hrest

lemma feedAll_remedy (s : Scope Label) (outer : List (Scope Label)) :
    ∃ s' t, (⟨s, outer⟩ : Nesting).feedAll (s.remedy.tokens.map Token.placed) = .ok ⟨s', outer⟩ ∧
      s'.build = .ok t := by
  obtain ⟨s', t, hg, hb⟩ := s.exists_gather_remedy
  refine ⟨s', t, ?_, hb⟩
  rw [feedAll_tokens s.remedy (Token.map_token_placed _), hg]
  rfl

/-- From every state some tokens lead to a tree: each open scope is completed and closed. -/
theorem exists_completion (s : Scope Label) (outer : List (Scope Label)) :
    ∃ ts : List Token, (∀ t ∈ ts, t.Spelled t.spelling) ∧
      ∃ e, (⟨s, outer⟩ : Nesting).feedAll (ts.map Token.placed) >>= close = .ok e := by
  induction outer generalizing s with
  | nil =>
    obtain ⟨s', t, hfeed, hb⟩ := feedAll_remedy s []
    refine ⟨_, s.spelled_of_mem_remedy, t, ?_⟩
    rw [hfeed]
    exact hb
  | cons around outer ih =>
    obtain ⟨s', t, hfeed, hb⟩ := feedAll_remedy s (around :: outer)
    obtain ⟨ts, hts, e, he⟩ := ih (around.addNode t)
    refine ⟨s.remedy.tokens ++ .closeParen :: ts, ?_, e, ?_⟩
    · exact List.forall_mem_append.mpr
        ⟨s.spelled_of_mem_remedy, List.forall_mem_cons.mpr ⟨.closeParen, hts⟩⟩
    · have hclose : (⟨s', around :: outer⟩ : Nesting).feed (Token.placed .closeParen) =
          .ok ⟨around.addNode t, outer⟩ := by
        rw [feed_closeParen rfl, hb]
        rfl
      rw [List.map_append, feedAll_append, hfeed, List.map_cons]
      show (feedAll _ (Token.placed .closeParen :: _)) >>= close = _
      rw [feedAll_cons_of_ok hclose, he]

/-- Tokens of a text that have not been refused can be written again. -/
lemma spelled_of_feedAll {source : Text} (hs : Token.stream source = ps ++ qs)
    (h : n.feedAll ps = .ok n') : ∀ t ∈ ps.map Placed.token, t.Spelled t.spelling := by
  have hmem : ∀ p ∈ ps, p ∈ Token.stream source := fun p hp => hs ▸ List.mem_append_left qs hp
  intro t ht
  apply Token.spelled_spelling (isLast_of_feedAll h
    (fun p hp => Token.ne_finish_of_mem_stream (hmem p hp)) t ht)
  rintro l rfl
  obtain ⟨p, hp, hl⟩ := List.mem_map.mp ht
  exact Cursor.wellEscaped_of_mem_drain (hmem p hp) hl

/-- Reading refuses just those tokens that no accepted text goes on with. -/
theorem viable_iff {source : Text} (hs : Token.stream source = ps ++ qs) :
    Token.Viable (ps.map Placed.token) ↔ ∃ n, Nesting.start.feedAll ps = .ok n := by
  constructor
  · rintro ⟨more, source', e, hlist, hparse⟩
    rw [Expr.parse_eq] at hparse
    obtain ⟨n, hfeed, _⟩ := Refusal.bind_eq_ok_iff.mp hparse
    obtain ⟨ps', qs', hstream, hps, _⟩ := List.map_eq_append_iff.mp hlist
    rw [hstream, feedAll_append] at hfeed
    obtain ⟨n₁, hfirst, _⟩ := Refusal.bind_eq_ok_iff.mp hfeed
    exact ⟨n₁, feedAll_congr hps hfirst⟩
  · rintro ⟨n, hfeed⟩
    obtain ⟨ts, hts, e, he⟩ := exists_completion n.inner n.outer
    have hall := List.forall_mem_append.mpr ⟨spelled_of_feedAll hs hfeed, hts⟩
    have hlist := Token.list_flatMap_spelling hall
    refine ⟨ts, _, e, hlist, ?_⟩
    obtain ⟨n', hmore, hclose⟩ := Refusal.bind_eq_ok_iff.mp he
    have hboth : Nesting.start.feedAll (ps ++ ts.map Token.placed) = .ok n' := by
      rw [feedAll_append, hfeed]
      exact hmore
    rw [Expr.parse_eq, feedAll_congr _ hboth]
    · exact hclose
    · rw [List.map_append, Token.map_token_placed]
      exact hlist.symm

end Nesting

end Clearance
