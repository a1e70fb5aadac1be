import Clearance.Proofs.Formula

/-! Places of a source, and where reading one token after the other leads. -/
namespace Clearance

namespace Cursor

/-- A place of a source: what lies behind and what lies ahead make up the source. -/
def In (source : Text) (c : Cursor) : Prop :=
  ∃ behind, source = behind ++ c.rest ∧ c.position = behind.length

section In
variable {source : Text} {c : Cursor}

lemma in_start (source : Text) : (start source).In source := ⟨[], rfl, rfl⟩

lemma In.position_le (h : c.In source) : c.position ≤ source.length := by
  obtain ⟨behind, rfl, hp⟩ := h
  simp [hp]

lemma In.drop_eq (h : c.In source) : source.drop c.position = c.rest := by
  obtain ⟨behind, rfl, hp⟩ := h
  rw [hp, List.drop_left]

lemma In.eq (h : c.In source) : c = ⟨c.position, source.drop c.position⟩ := by
  rw [h.drop_eq]

/-- Nothing is ahead at the end of the source only. -/
lemma In.eq_of_rest_eq_nil (h : c.In source) (hr : c.rest = []) : c = ⟨source.length, []⟩ := by
  obtain ⟨n, rest⟩ := c
  obtain ⟨behind, rfl, hp⟩ := h
  change rest = [] at hr
  change n = behind.length at hp
  simp [hr, hp]

end In

/-- All that a single read can come to: it finds the end of the text or a stray character, where it
stays, or it takes a token off the text. -/
inductive Steps : Cursor → Placed → Cursor → Prop
  | finish {n gap} (spacing : gap.Spacing) :
      Steps ⟨n, gap⟩ ⟨.finish, n + gap.length⟩ ⟨n + gap.length, []⟩
  | stray {n gap c rest} (spacing : gap.Spacing) (stray : Alphabet.Stray c) :
      Steps ⟨n, gap ++ c :: rest⟩ ⟨.stray c, n + gap.length⟩ ⟨n + gap.length, c :: rest⟩
  | token {n gap t w rest} (spacing : gap.Spacing) (taken : t.Taken w rest) :
      Steps ⟨n, gap ++ (w ++ rest)⟩ ⟨t, n + gap.length⟩ ⟨n + gap.length + w.length, rest⟩

theorem steps_next (c : Cursor) : Steps c c.next.1 c.next.2 := by
  obtain ⟨n, s⟩ := c
  have hg : Text.Spacing (s.takeWhile Alphabet.isSpacing) := List.all_eq_true.mp List.all_takeWhile
  have hstop := Token.stop_dropWhile Alphabet.isSpacing s
  rw [← List.takeWhile_append_dropWhile (p := Alphabet.isSpacing) (l := s)]
  obtain hnil | ⟨c, rest, hs, hc, _⟩ | ⟨t, w, rest, hs, ht⟩ := Token.read_cases _ hstop
  · rw [hnil, List.append_nil, next_spacing hg]
    exact .finish hg
  · rw [hs, next_stray hg hc]
    exact .stray hg hc
  · rw [hs, next_taken hg ht]
    exact .token hg ht

namespace Steps
variable {source : Text} {c d : Cursor} {p : Placed}

lemma position_le (h : Steps c p d) : c.position ≤ d.position := by
  cases h with
  | token _ _ => exact Nat.le_trans (Nat.le_add_right _ _) (Nat.le_add_right _ _)
  | _ => exact Nat.le_add_right _ _

/-- A token that is not the last one takes the place further. -/
lemma position_lt (h : Steps c p d) (hp : p.token.isLast = false) : c.position < d.position := by
  cases h with
  | finish _ => contradiction
  | stray _ _ => contradiction
  | @token n gap t w rest _ taken =>
    have hw := List.length_pos_iff.mpr taken.ne_nil
    show n < n + gap.length + w.length
    omega

lemma in_source (h : Steps c p d) (hc : c.In source) : d.In source := by
  obtain ⟨behind, rfl, hp⟩ := hc
  cases h with
  | @finish n gap _ =>
    change n = behind.length at hp
    exact ⟨behind ++ gap, by simp, by simp [hp]⟩
  | @stray n gap _ _ _ _ =>
    change n = behind.length at hp
    exact ⟨behind ++ gap, by simp, by simp [hp]⟩
  | @token n gap _ w _ _ _ =>
    change n = behind.length at hp
    exact ⟨behind ++ gap ++ w, by simp, by simp [hp, Nat.add_assoc]⟩

/-- The last token is read again where it was read. -/
lemma next_eq (h : Steps c p d) (hp : p.token.isLast = true) : d.next = (p, d) := by
  cases h with
  | finish _ => exact next_spacing Text.spacing_nil
  | stray _ stray => exact next_stray Text.spacing_nil stray
  | token _ taken =>
    rw [show _ = false from taken.isLast] at hp
    contradiction

/-- A stray character stands at the place that is reached with it. -/
lemma of_stray (h : Steps c p d) {ch : Char} (hp : p.token = .stray ch) :
    d.position = p.position ∧ d.rest.head? = some ch := by
  cases h with
  | finish _ => contradiction
  | stray _ _ =>
    obtain rfl := Token.stray.inj hp
    exact ⟨rfl, rfl⟩
  | token _ taken =>
    change _ = Token.stray ch at hp
    subst hp
    cases taken

/-- What stands for a token lies between the place where the token is found and the place that is
reached with it. -/
lemma exists_taken (h : Steps c p d) (hc : c.In source) (hp : p.token.isLast = false) :
    ∃ w, source.drop p.position = w ++ d.rest ∧ p.token.Taken w d.rest ∧
      d.position = p.position + w.length := by
  obtain ⟨behind, rfl, hpos⟩ := hc
  cases h with
  | finish _ => contradiction
  | stray _ _ => contradiction
  | @token n gap t w rest _ taken =>
    change n = behind.length at hpos
    refine ⟨w, ?_, taken, rfl⟩
    show List.drop (n + gap.length) (behind ++ (gap ++ (w ++ rest))) = _
    rw [hpos, ← List.length_append, ← List.append_assoc, List.drop_left]

end Steps

/-- Nothing but one token is ever read from the place on. -/
def AtLast (c : Cursor) (p : Placed) : Prop := c.next = (p, c) ∧ p.token.isLast = true

lemma atLast_next {c : Cursor} (h : c.next.1.token.isLast = true) : c.next.2.AtLast c.next.1 :=
  ⟨c.steps_next.next_eq h, h⟩

section After
variable {source : Text} {c : Cursor}

lemma after_add (c : Cursor) (m n : Nat) : c.after (m + n) = (c.after m).after n := by
  induction m generalizing c with
  | zero => rw [Nat.zero_add, after]
  | succ m ih => rw [Nat.succ_add, after, after, ih]

lemma AtLast.after_eq {p : Placed} (h : c.AtLast p) (n : Nat) : c.after n = c := by
  induction n with
  | zero => rfl
  | succ n ih => rw [after, h.1, ih]

lemma In.after (h : c.In source) (n : Nat) : (c.after n).In source := by
  induction n generalizing c with
  | zero => exact h
  | succ n ih => exact ih (c.steps_next.in_source h)

lemma position_le_after (c : Cursor) (n : Nat) : c.position ≤ (c.after n).position := by
  induction n generalizing c with
  | zero => exact Nat.le_refl _
  | succ n ih => exact Nat.le_trans c.steps_next.position_le (ih c.next.2)

lemma position_after_mono (c : Cursor) {m n : Nat} (h : m ≤ n) :
    (c.after m).position ≤ (c.after n).position := by
  obtain ⟨k, rfl⟩ := Nat.exists_eq_add_of_le h
  rw [after_add]
  exact position_le_after _ k

/-- The tokens ahead are those that are read one after the other. -/
theorem next_of_drain {before after : List Placed} {p : Placed}
    (h : c.drain.1 = before ++ p :: after) :
    (c.after before.length).next = (p, c.after (before.length + 1)) := by
  have hfinish : c.next.1.token ≠ .finish := by
    intro hf
    rw [drain_of_last (by rw [hf]; rfl), if_pos hf] at h
    simp at h
  induction before generalizing c with
  | nil =>
    obtain ⟨ps, hd⟩ := exists_drain_cons hfinish
    rw [hd] at h
    exact Prod.ext (List.cons.inj h).1 rfl
  | cons q before ih =>
    cases hl : c.next.1.token.isLast with
    | true =>
      rw [drain_of_last hl, if_neg hfinish] at h
      simp at h
    | false =>
      rw [drain_of_more hl] at h
      have htail := (List.cons.inj h).2
      refine ih htail ?_
      intro hf
      rw [drain_of_last (by rw [hf]; rfl), if_pos hf] at htail
      simp at htail

/-- All tokens ahead and the end are read, or the stray character a second time. -/
theorem drain_place (c : Cursor) : c.drain.2 = c.after (c.drain.1.length + 1) := by
  induction hk : c.rest.length using Nat.strongRecOn generalizing c with
  | ind k ih =>
    cases hl : c.next.1.token.isLast with
    | true =>
      rw [drain_of_last hl]
      split
      · rfl
      · exact ((atLast_next hl).after_eq 1).symm
    | false =>
      rw [drain_of_more hl]
      exact ih _ (hk ▸ next_shorter hl) _ rfl

end After

end Cursor

end Clearance
