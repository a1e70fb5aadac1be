import Clearance.Cursor.Session
import Clearance.Proofs.Places

/-! Readers that share one cursor. In whatever order they read, the tokens ahead are handed out one
after the other, and none of them twice. -/
namespace Clearance

/-- Tokens in the order in which they were read, without the end of the text and without the repeats
of a stray character. -/
def Placed.once : List Placed → List Placed
  | [] => []
  | p :: ps =>
    if p.token = .finish then once ps
    else if p.token.isLast then p :: (once ps).filter (· ≠ p)
    else p :: once ps

namespace Placed
variable {p : Placed} {ps qs : List Placed}

lemma once_cons_of_finish (h : p.token = .finish) : once (p :: ps) = once ps := if_pos h

lemma once_cons_of_stray (hf : p.token ≠ .finish) (hl : p.token.isLast = true) :
    once (p :: ps) = p :: (once ps).filter (· ≠ p) := by
  rw [once, if_neg hf, if_pos hl]

lemma once_cons_of_more (hl : p.token.isLast = false) : once (p :: ps) = p :: once ps := by
  have hf : p.token ≠ .finish := by
    intro hf
    rw [hf] at hl
    contradiction
  rw [once, if_neg hf, if_neg (by rw [hl]; decide)]

lemma once_prefix_append (ps qs : List Placed) : once ps <+: once (ps ++ qs) := by
  induction ps with
  | nil => exact List.nil_prefix
  | cons p ps ih =>
    rw [List.cons_append, once, once]
    split_ifs
    · exact ih
    · exact (List.prefix_cons_inj p).mpr (ih.filter _)
    · exact (List.prefix_cons_inj p).mpr ih

end Placed

namespace Cursor
variable {c d : Cursor} {p : Placed} {ps qs : List Placed}

/-- Once the last token is read, the same is ahead as before. -/
lemma drain_next_of_isLast (h : c.next.1.token.isLast = true) : c.next.2.drain.1 = c.drain.1 := by
  have hn := (atLast_next h).1
  rw [drain_of_last (c := c.next.2) (by rw [hn]; exact h), drain_of_last h, hn]

/-- Handed out in front of the tokens behind a read, the token read makes up those ahead of it. -/
lemma once_next_append (h : Placed.once qs = c.next.2.drain.1) :
    Placed.once (c.next.1 :: qs) = c.drain.1 := by
  cases hl : c.next.1.token.isLast with
  | false => rw [Placed.once_cons_of_more hl, h, drain_of_more hl]
  | true =>
    rw [drain_next_of_isLast hl] at h
    by_cases hf : c.next.1.token = .finish
    · rw [Placed.once_cons_of_finish hf, h]
    · rw [Placed.once_cons_of_stray hf hl, h, drain_of_last hl, if_neg hf]
      simp

/-- What is read again after all tokens ahead adds nothing to them. -/
lemma once_drain_append (h : Placed.once qs ⊆ c.drain.2.drain.1) :
    Placed.once (c.drain.1 ++ qs) = c.drain.1 := by
  induction hk : c.rest.length using Nat.strongRecOn generalizing c with
  | ind k ih =>
    cases hl : c.next.1.token.isLast with
    | false =>
      rw [drain_of_more hl] at h ⊢
      rw [List.cons_append, Placed.once_cons_of_more hl, ih _ (hk ▸ next_shorter hl) h rfl]
    | true =>
      rw [drain_of_last hl] at h
      change _ ⊆ c.next.2.drain.1 at h
      rw [drain_next_of_isLast hl] at h
      rw [drain_of_last hl] at h ⊢
      by_cases hf : c.next.1.token = .finish
      · rw [if_pos hf] at h ⊢
        exact List.eq_nil_of_subset_nil h
      · rw [if_neg hf] at h ⊢
        rw [List.singleton_append, Placed.once_cons_of_stray hf hl]
        refine congrArg (c.next.1 :: ·) (List.filter_eq_nil_iff.mpr ?_)
        intro q hq
        simpa using List.mem_singleton.mp (h hq)

lemma once_drain (c : Cursor) : Placed.once c.drain.1 = c.drain.1 := by
  have h : Placed.once (c.drain.1 ++ []) = c.drain.1 := once_drain_append (List.nil_subset _)
  rwa [List.append_nil] at h

/-- Tokens are read from a place on, and the first of them are handed out. -/
def Yields (c : Cursor) (ps : List Placed) (d : Cursor) : Prop :=
  ∃ n, d = c.after n ∧ ∀ before p after, ps = before ++ p :: after →
    before.length < n ∧ (c.after before.length).next = (p, c.after (before.length + 1))

lemma yields_nil (c : Cursor) (n : Nat) : c.Yields [] (c.after n) :=
  ⟨n, rfl, fun before p after h => by simp at h⟩

lemma yields_next (c : Cursor) : c.Yields [c.next.1] c.next.2 := by
  refine ⟨1, rfl, ?_⟩
  intro before p after h
  obtain ⟨rfl, rfl, rfl⟩ : before = [] ∧ p = c.next.1 ∧ after = [] := by
    simpa [List.singleton_eq_append_iff] using h
  exact ⟨Nat.one_pos, rfl⟩

lemma yields_drain (c : Cursor) : c.Yields c.drain.1 c.drain.2 := by
  refine ⟨_, c.drain_place, ?_⟩
  intro before p after h
  refine ⟨?_, next_of_drain h⟩
  rw [h, List.length_append]
  omega

lemma Yields.position_le (h : c.Yields ps d) : c.position ≤ d.position := by
  obtain ⟨n, rfl, _⟩ := h
  exact c.position_le_after n

lemma Yields.in_source {source : Text} (h : c.Yields ps d) (hc : c.In source) : d.In source := by
  obtain ⟨n, rfl, _⟩ := h
  exact hc.after n

lemma Yields.eq_of_atLast (h : c.Yields ps d) (hc : c.AtLast p) : d = c := by
  obtain ⟨n, rfl, _⟩ := h
  exact hc.after_eq n

/-- After the last token has been handed out, no place but its own is reached. -/
lemma Yields.atLast (h : c.Yields ps d) (hp : p ∈ ps) (hl : p.token.isLast = true) :
    d.AtLast p := by
  obtain ⟨n, rfl, hps⟩ := h
  obtain ⟨before, after, rfl⟩ := List.append_of_mem hp
  obtain ⟨hlt, hnext⟩ := hps before p after rfl
  have hlast : (c.after (before.length + 1)).AtLast p := by
    have h := atLast_next (c := c.after before.length) (by rw [hnext]; exact hl)
    rwa [hnext] at h
  obtain ⟨k, rfl⟩ := Nat.exists_eq_add_of_lt hlt
  rw [Nat.add_right_comm, after_add, hlast.after_eq]
  exact hlast

end Cursor

/-- The tokens that a reply hands out. -/
def Reply.handed : Reply → List Placed
  | .token p => [p]
  | .tokens ps => ps
  | _ => []

namespace Session
variable {s : Session} {i : Nat}

/-- What has become of a session after some requests. -/
def run (s : Session) : List Request → Session
  | [] => s
  | r :: rs => (s.answer r).2.run rs

/-- All tokens handed out, in the order of the requests. -/
def handed (s : Session) (rs : List Request) : List Placed :=
  (s.answers rs).flatMap fun a => a.1.handed

@[simp] lemma run_cons (s : Session) (r : Request) (rs : List Request) :
    s.run (r :: rs) = (s.answer r).2.run rs := rfl

@[simp] lemma handed_cons (s : Session) (r : Request) (rs : List Request) :
    s.handed (r :: rs) = (s.answer r).1.handed ++ (s.answer r).2.handed rs := rfl

lemma step_of_running (h : s.running[i]? = some true) : s.step i =
    (if s.cursor.next.1.token = .finish then .nothing else .token s.cursor.next.1,
      { s with
        cursor := s.cursor.next.2
        running := s.running.set i (!s.cursor.next.1.token.isLast) }) := if_pos h

lemma step_of_not_running (h : s.running[i]? ≠ some true) : s.step i = (.nothing, s) := if_neg h

/-- Whatever is asked, tokens are read one by one from the place reached, and what is handed out are
the first of them. -/
theorem yields_answer (s : Session) (r : Request) :
    s.cursor.Yields (s.answer r).1.handed (s.answer r).2.cursor := by
  cases r with
  | next => exact s.cursor.yields_next
  | position => exact s.cursor.yields_nil 0
  | source => exact s.cursor.yields_nil 0
  | drain => exact s.cursor.yields_drain
  | iterate => exact s.cursor.yields_nil 0
  | step i =>
    show s.cursor.Yields (s.step i).1.handed (s.step i).2.cursor
    by_cases hi : s.running[i]? = some true
    · rw [step_of_running hi]
      by_cases hf : s.cursor.next.1.token = .finish
      · rw [if_pos hf]
        exact s.cursor.yields_nil 1
      · rw [if_neg hf]
        exact s.cursor.yields_next
    · rw [step_of_not_running hi]
      exact s.cursor.yields_nil 0
  | parse =>
    show s.cursor.Yields [] (Expr.parseFrom s.cursor).2
    rw [Expr.parseFrom, Nesting.read_eq]
    exact s.cursor.yields_nil _

/-- A reader loses no token: those it hands out, put in front of those ahead after it, are those
ahead before it. -/
theorem once_handed_append {r : Request} (hr : r ≠ .parse) {qs : List Placed}
    (h : Placed.once qs = (s.answer r).2.cursor.drain.1) :
    Placed.once ((s.answer r).1.handed ++ qs) = s.cursor.drain.1 := by
  cases r with
  | next => exact Cursor.once_next_append h
  | position => exact h
  | source => exact h
  | drain => exact Cursor.once_drain_append (h ▸ List.Subset.refl _)
  | iterate => exact h
  | step i =>
    change Placed.once qs = (s.step i).2.cursor.drain.1 at h
    show Placed.once ((s.step i).1.handed ++ qs) = _
    by_cases hi : s.running[i]? = some true
    · rw [step_of_running hi] at h ⊢
      by_cases hf : s.cursor.next.1.token = .finish
      · rw [if_pos hf]
        exact h.trans (Cursor.drain_next_of_isLast (by rw [hf]; rfl))
      · rw [if_neg hf]
        exact Cursor.once_next_append h
    · rw [step_of_not_running hi] at h ⊢
      exact h
  | parse => contradiction

/-- Readers lose no token, whatever they ask for. -/
theorem once_handed (s : Session) {rs : List Request} (hrs : .parse ∉ rs) :
    Placed.once (s.handed rs ++ (s.run rs).cursor.drain.1) = s.cursor.drain.1 := by
  induction rs generalizing s with
  | nil => exact s.cursor.once_drain
  | cons r rs ih =>
    rw [List.mem_cons, not_or] at hrs
    rw [handed_cons, run_cons, List.append_assoc]
    exact once_handed_append (Ne.symm hrs.1) (ih _ hrs.2)

lemma in_run {source : Text} (h : s.cursor.In source) (rs : List Request) :
    (s.run rs).cursor.In source := by
  induction rs generalizing s with
  | nil => exact h
  | cons r rs ih => exact ih ((s.yields_answer r).in_source h)

lemma atLast_run {p : Placed} (h : s.cursor.AtLast p) (rs : List Request) :
    (s.run rs).cursor.AtLast p := by
  induction rs generalizing s with
  | nil => exact h
  | cons r rs ih =>
    apply ih
    rw [(s.yields_answer r).eq_of_atLast h]
    exact h

/-- Once the last token has been handed out, nothing else is read. -/
lemma atLast_of_mem_handed {p : Placed} {rs : List Request} (hp : p ∈ s.handed rs)
    (hl : p.token.isLast = true) : (s.run rs).cursor.AtLast p := by
  induction rs generalizing s with
  | nil => contradiction
  | cons r rs ih =>
    rw [handed_cons] at hp
    obtain hp | hp := List.mem_append.mp hp
    · exact atLast_run ((s.yields_answer r).atLast hp hl) rs
    · exact ih hp

/-- An iteration that does not run is still the same one after a request. It is counted from the
newest one, so there is one more before it if another has been started. -/
lemma not_running_answer (h : s.running[i]? ≠ some true) (r : Request) :
    (s.answer r).2.running[i + [r].count .iterate]? ≠ some true := by
  cases r with
  | iterate => simpa [answer] using h
  | step j =>
    show (s.step j).2.running[i + 0]? ≠ some true
    by_cases hj : s.running[j]? = some true
    · have hne : j ≠ i := by
        rintro rfl
        exact h hj
      rw [step_of_running hj]
      simpa [hne] using h
    · rw [step_of_not_running hj]
      exact h
  | _ => exact h

lemma not_running_run (h : s.running[i]? ≠ some true) (rs : List Request) :
    (s.run rs).running[i + rs.count .iterate]? ≠ some true := by
  induction rs generalizing s i with
  | nil => exact h
  | cons r rs ih =>
    have hstep := ih (not_running_answer h r)
    rwa [Nat.add_assoc, ← List.count_append, List.singleton_append] at hstep

/-- An iteration that hands out no token, or the last one, has ended. -/
lemma not_running_of_step (h : ∀ p, (s.step i).1 = .token p → p.token.isLast = true) :
    (s.step i).2.running[i]? ≠ some true := by
  by_cases hi : s.running[i]? = some true
  · rw [step_of_running hi] at h ⊢
    have hl : s.cursor.next.1.token.isLast = true := by
      by_cases hf : s.cursor.next.1.token = .finish
      · rw [hf]
        rfl
      · exact h _ (if_neg hf)
    show (s.running.set i (!s.cursor.next.1.token.isLast))[i]? ≠ some true
    rw [hl, List.getElem?_set_self (List.getElem?_eq_some_iff.mp hi).1]
    decide
  · rw [step_of_not_running hi]
    exact hi

/-- Readers of one cursor, however they take turns, together hand out the tokens of the source in
order. The place never leaves the source nor moves back, and each token but the last moves it on.
From the last token on nothing changes, and an iteration that has ended stays so: it is counted from
the newest one on, so those started later come before it. -/
theorem tokens_of_readers (source : Text) (rs : List Request) (hrs : .parse ∉ rs) :
    let s := (start source).run rs
    (Placed.once ((start source).handed rs) <+: Token.stream source ∧
      Placed.once ((start source).handed rs ++ s.cursor.drain.1) = Token.stream source) ∧
    s.cursor.position ≤ source.length ∧
    (∀ r, s.cursor.position ≤ (s.answer r).2.cursor.position ∧
      ∀ before p after, (s.answer r).1.handed = before ++ p :: after →
        (s.cursor.after before.length).next = (p, s.cursor.after (before.length + 1)) ∧
        s.cursor.position ≤ (s.cursor.after before.length).position ∧
        (p.token.isLast = false → (s.cursor.after before.length).position <
          (s.cursor.after (before.length + 1)).position) ∧
        (s.cursor.after (before.length + 1)).position ≤ (s.answer r).2.cursor.position) ∧
    (∀ p ∈ (start source).handed rs, p.token.isLast = true →
      s.answer .next = (.token p, s) ∧ ∀ r, (s.answer r).2.cursor = s.cursor) ∧
    ∀ i, (∀ p, (s.step i).1 = .token p → p.token.isLast = true) → ∀ more,
      let later := (s.step i).2.run more
      later.answer (.step (i + more.count .iterate)) = (.nothing, later) := by
  intro s
  have hin : s.cursor.In source := in_run (Cursor.in_start source) rs
  have honce : Placed.once ((start source).handed rs ++ s.cursor.drain.1) = Token.stream source :=
    once_handed (start source) hrs
  refine ⟨⟨honce ▸ Placed.once_prefix_append _ _, honce⟩, hin.position_le, ?_, ?_, ?_⟩
  · intro r
    refine ⟨(s.yields_answer r).position_le, ?_⟩
    intro before p after h
    obtain ⟨n, hn, hall⟩ := s.yields_answer r
    obtain ⟨hlt, hnext⟩ := hall before p after h
    have hsteps := (s.cursor.after before.length).steps_next
    rw [hnext] at hsteps
    refine ⟨hnext, s.cursor.position_le_after _, hsteps.position_lt, ?_⟩
    rw [hn]
    exact s.cursor.position_after_mono hlt
  · intro p hp hl
    have hlast : s.cursor.AtLast p := atLast_of_mem_handed hp hl
    refine ⟨?_, fun r => (s.yields_answer r).eq_of_atLast hlast⟩
    simp [answer, hlast.1]
  · intro i hi more
    exact step_of_not_running (not_running_run (not_running_of_step hi) more)

/-- Two iterations and single reads by turns. A label ends at its backslash, and all readers come to
the stray character after the second label. -/
theorem tokens_of_readers_by_turns :
    let source := "\"a\\b $".toList
    let rs : List Request := [.iterate, .step 0, .next, .step 0, .iterate, .step 0, .next]
    let s := (start source).run rs
    let stray : Placed := ⟨.stray '$', 5⟩
    .parse ∉ rs ∧
    (start source).handed rs = [⟨.label ['a'], 0⟩, ⟨.label ['b'], 3⟩, stray, stray, stray] ∧
    Placed.once ((start source).handed rs) <+: Token.stream source ∧
    (stray.token.isLast = true ∧ s.answer .next = (.token stray, s)) ∧
    ∀ more, let later := (s.step 1).2.run more
      later.answer (.step (1 + more.count .iterate)) = (.nothing, later) := by
  intro source rs s stray
  have hrs : .parse ∉ rs := by decide
  have hhanded : (start source).handed rs =
      [⟨.label ['a'], 0⟩, ⟨.label ['b'], 3⟩, stray, stray, stray] := by decide +kernel
  have hrunning : s.running = [false, false] := by decide +kernel
  have hended : ∀ p, (s.step 1).1 = .token p → p.token.isLast = true := by
    rw [step_of_not_running (by simp [hrunning])]
    exact nofun
  obtain ⟨⟨hstart, _⟩, _, _, hlast, hiterations⟩ := tokens_of_readers source rs hrs
  have hmem : stray ∈ (start source).handed rs := by simp [hhanded]
  exact ⟨hrs, hhanded, hstart, ⟨rfl, (hlast stray hmem rfl).1⟩, hiterations 1 hended⟩

end Session

end Clearance
