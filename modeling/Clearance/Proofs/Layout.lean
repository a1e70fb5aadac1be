import Clearance.Proofs.Lexeme
import Mathlib.Data.List.Basic

/-! How a text is laid out: each of its characters belongs to a token, to the spacing between tokens
or to a rest that starts with a stray character. -/
namespace Clearance

/-- Nothing but spacing, or nothing at all. -/
def Text.Spacing (gap : Text) : Prop := ∀ c ∈ gap, Alphabet.isSpacing c = true

lemma Text.spacing_nil : Text.Spacing [] := by simp [Spacing]

lemma Text.Spacing.getLast {gap : Text} (h : gap.Spacing) :
    ∀ c ∈ gap.getLast?, Alphabet.isIdentifier c = false := by
  intro c hc
  exact Alphabet.isIdentifier_eq_false_of_isSpacing (h c (List.mem_of_getLast? hc))

lemma Text.Spacing.bounds {gap : Text} (h : gap.Spacing) (hne : gap ≠ []) (rest : Text) :
    Token.Bounds (gap ++ rest) := by
  obtain ⟨c, s, rfl⟩ := List.exists_cons_of_ne_nil hne
  rintro _ ⟨⟩
  exact Alphabet.isIdentifier_eq_false_of_isSpacing (h c (by simp))

namespace Cursor

section Next
variable {n : Nat} {gap w rest : Text} {t : Token}

/-- Spacing is left behind, up to the first other character. -/
lemma skip_append {s : Text} (hg : gap.Spacing) (hs : ∀ c ∈ s.head?, Alphabet.isSpacing c = false) :
    (⟨n, gap ++ s⟩ : Cursor).skip = ⟨n + gap.length, s⟩ := by
  have ht : (gap ++ s).takeWhile Alphabet.isSpacing = gap := Token.takeWhile_append_of_stop hg hs
  simp [skip, advance, ht]

lemma next_spacing (hg : gap.Spacing) : (⟨n, gap⟩ : Cursor).next =
    (⟨.finish, n + gap.length⟩, ⟨n + gap.length, []⟩) := by
  have hs := skip_append (n := n) (s := []) hg (by simp)
  rw [List.append_nil] at hs
  simp [next, hs]

lemma next_stray {c : Char} (hg : gap.Spacing) (hc : Alphabet.Stray c) :
    (⟨n, gap ++ c :: rest⟩ : Cursor).next =
      (⟨.stray c, n + gap.length⟩, ⟨n + gap.length, c :: rest⟩) := by
  have hs := skip_append (n := n) (s := c :: rest) hg (by simpa using hc.not_spacing)
  have hm := hc.not_mark
  simp only [List.mem_cons, not_or] at hm
  simp [next, hs, Token.read, hm, hc.not_identifier]

/-- A token is read where it stands, after the spacing in front of it. -/
theorem next_taken (hg : gap.Spacing) (h : t.Taken w rest) :
    (⟨n, gap ++ (w ++ rest)⟩ : Cursor).next =
      (⟨t, n + gap.length⟩, ⟨n + gap.length + w.length, rest⟩) := by
  simp [next, skip_append hg h.head_not_spacing, Token.read_taken h, advance]

end Next

lemma drain_of_last {c : Cursor} (h : c.next.1.token.isLast = true) :
    c.drain = (if c.next.1.token = .finish then [] else [c.next.1], c.next.2) := by
  rw [drain, dif_pos h]
  split <;> rfl

lemma drain_of_more {c : Cursor} (h : c.next.1.token.isLast = false) :
    c.drain = (c.next.1 :: c.next.2.drain.1, c.next.2.drain.2) := by
  have hf : c.next.1.token ≠ .finish := by
    intro hf
    rw [hf] at h
    contradiction
  rw [drain, if_neg hf, dif_neg (by rw [h]; decide)]

/-- The tokens ahead of a place, and the place that is reached with them: the end of the text or the
first stray character. -/
inductive Laid : Cursor → List Placed → Cursor → Prop
  | finish {n gap} (spacing : gap.Spacing) : Laid ⟨n, gap⟩ [] ⟨n + gap.length, []⟩
  | stray {n gap c rest} (spacing : gap.Spacing) (stray : Alphabet.Stray c) :
      Laid ⟨n, gap ++ c :: rest⟩ [⟨.stray c, n + gap.length⟩] ⟨n + gap.length, c :: rest⟩
  | token {n gap t w rest ps d} (spacing : gap.Spacing) (taken : t.Taken w rest)
      (tail : Laid ⟨n + gap.length + w.length, rest⟩ ps d) :
      Laid ⟨n, gap ++ (w ++ rest)⟩ (⟨t, n + gap.length⟩ :: ps) d

/-- There is one way to lay out what is ahead. -/
theorem Laid.drain_eq {c d : Cursor} {ps : List Placed} (h : Laid c ps d) : c.drain = (ps, d) := by
  induction h with
  | finish hg =>
    rw [drain_of_last (by rw [next_spacing hg]; rfl), next_spacing hg]
    rfl
  | stray hg hc =>
    rw [drain_of_last (by rw [next_stray hg hc]; rfl), next_stray hg hc]
    rfl
  | token hg ht _ ih =>
    rw [drain_of_more (by rw [next_taken hg ht]; exact ht.isLast), next_taken hg ht, ih]

/-- Whatever is ahead is laid out. -/
theorem laid_drain (c : Cursor) : Laid c c.drain.1 c.drain.2 := by
  -- a token leaves less ahead than there was before the spacing in front of it
  induction hk : c.rest.length using Nat.strongRecOn generalizing c with
  | ind k ih =>
    obtain ⟨n, s⟩ := c
    have hg : Text.Spacing (s.takeWhile Alphabet.isSpacing) :=
      List.all_eq_true.mp List.all_takeWhile
    have hstop := Token.stop_dropWhile Alphabet.isSpacing s
    rw [← List.takeWhile_append_dropWhile (p := Alphabet.isSpacing) (l := s)] at hk ⊢
    obtain hnil | ⟨c, rest, hs, hc, _⟩ | ⟨t, w, rest, hs, ht⟩ := Token.read_cases _ hstop
    · rw [hnil, List.append_nil, (Laid.finish hg).drain_eq]
      exact .finish hg
    · rw [hs, (Laid.stray hg hc).drain_eq]
      exact .stray hg hc
    · rw [hs] at hk ⊢
      have hlt : rest.length < k := by
        have hw := List.length_pos_iff.mpr ht.ne_nil
        simp only [List.length_append] at hk
        omega
      have h := Laid.token (n := n) hg ht (ih _ hlt _ rfl)
      rw [h.drain_eq]
      exact h

lemma Laid.stray_or_taken {c d : Cursor} {ps : List Placed} (h : Laid c ps d) {p : Placed}
    (hp : p ∈ ps) : (∃ c, p.token = .stray c) ∨ ∃ w rest, p.token.Taken w rest := by
  induction h with
  | finish _ => contradiction
  | stray _ _ => exact .inl ⟨_, by rw [List.mem_singleton.mp hp]⟩
  | token _ ht _ ih =>
    obtain rfl | hp := List.mem_cons.mp hp
    · exact .inr ⟨_, _, ht⟩
    · exact ih hp

/-- Without a stray character the text is read to its end. -/
lemma Laid.rest_eq_nil {c d : Cursor} {ps : List Placed} (h : Laid c ps d)
    (hp : ∀ p ∈ ps, p.token.isLast = false) : d.rest = [] := by
  induction h with
  | finish _ => rfl
  | stray _ _ => exact absurd (hp _ (List.mem_singleton_self _)) (by simp [Token.isLast])
  | token _ _ _ ih => exact ih (List.forall_mem_cons.mp hp).2

/-- The end of a text is not among its tokens. -/
lemma ne_finish_of_mem_drain {c : Cursor} {p : Placed} (hp : p ∈ c.drain.1) :
    p.token ≠ .finish := by
  intro hf
  obtain ⟨_, h⟩ | ⟨_, _, h⟩ := c.laid_drain.stray_or_taken hp
  · rw [hf] at h
    contradiction
  · rw [hf] at h
    cases h

/-- No label of a text is badly escaped, whatever the text. -/
theorem wellEscaped_of_mem_drain {c : Cursor} {p : Placed} {l : Text}
    (hp : p ∈ c.drain.1) (h : p.token = .label l) : Label.wellEscaped l = true := by
  obtain ⟨_, hs⟩ | ⟨_, _, ht⟩ := c.laid_drain.stray_or_taken hp
  · rw [h] at hs
    contradiction
  · rw [h] at ht
    exact ht.wellEscaped

end Cursor

/-- A token as it stands in a text: what is written for it, and the spacing after that. -/
structure Word where
  token : Token
  spelling : Text
  gap : Text
deriving DecidableEq, Repr

namespace Word

def text (w : Word) : Text := w.spelling ++ w.gap

/-- The tokens of words that follow each other from a position on, each with the position where its
word starts. -/
def placed : Nat → List Word → List Placed
  | _, [] => []
  | n, w :: ws => ⟨w.token, n⟩ :: placed (n + w.text.length) ws

/-- How a word stands between the text before it and the text after it. -/
structure Stands (w : Word) (before after : Text) : Prop where
  taken : w.token.Taken w.spelling (w.gap ++ after)
  spacing : w.gap.Spacing
  alone : (∀ c ∈ w.spelling, Alphabet.isIdentifier c = true) →
    ∀ c ∈ before.getLast?, Alphabet.isIdentifier c = false

/-- Text taken for a token ends with no identifier character if a bare label follows at once. -/
lemma getLast_of_taken {lead rest : Text} {before after : List Word} {w : Word}
    (hlead : lead.Spacing)
    (hwords : ∀ b v a, before ++ w :: after = b ++ v :: a →
      v.gap.Spacing ∧ v.token.Taken v.spelling (v.gap ++ (a.flatMap text ++ rest)))
    (hw : ∀ c ∈ w.spelling, Alphabet.isIdentifier c = true) :
    ∀ c ∈ (lead ++ before.flatMap text).getLast?, Alphabet.isIdentifier c = false := by
  obtain rfl | ⟨b, v, rfl⟩ := before.eq_nil_or_concat'
  · rw [List.flatMap_nil, List.append_nil]
    exact hlead.getLast
  · obtain ⟨hgap, htaken⟩ := hwords b v (w :: after) (by simp)
    obtain ⟨d, s, hd⟩ := List.exists_cons_of_ne_nil (hwords (b ++ [v]) w after rfl).2.ne_nil
    have htext : lead ++ (b ++ [v]).flatMap text =
        lead ++ b.flatMap text ++ (v.spelling ++ v.gap) := by simp [text]
    rw [htext, List.getLast?_append_of_ne_nil _ (by simp [htaken.ne_nil])]
    by_cases hg : v.gap = []
    · rw [hg, List.append_nil]
      obtain hend | hbound := htaken.getLast_or_bounds
      · exact hend
      · have hstop := hbound d (by simp [hg, text, hd])
        rw [hw d (by simp [hd])] at hstop
        contradiction
    · rw [List.getLast?_append_of_ne_nil _ hg]
      exact hgap.getLast

end Word

namespace Cursor

/-- What is read from a place on falls into words. -/
lemma Laid.exists_words {c d : Cursor} {ps : List Placed} (h : Laid c ps d) :
    ∃ (lead : Text) (words : List Word) (last : List Placed),
      c.rest = lead ++ (words.flatMap Word.text ++ d.rest) ∧ lead.Spacing ∧
      (∀ before w after, words = before ++ w :: after → w.gap.Spacing ∧
        w.token.Taken w.spelling (w.gap ++ (after.flatMap Word.text ++ d.rest))) ∧
      ps = Word.placed (c.position + lead.length) words ++ last ∧
      d.position = c.position + (lead ++ words.flatMap Word.text).length ∧
      (last = [] ∧ d.rest = [] ∨
        ∃ c rest, Alphabet.Stray c ∧ d.rest = c :: rest ∧ last = [⟨.stray c, d.position⟩]) := by
  induction h with
  | @finish n gap hg => exact ⟨gap, [], [], by simp, hg, by simp, rfl, by simp, .inl ⟨rfl, rfl⟩⟩
  | @stray n gap c rest hg hc =>
    exact ⟨gap, [], _, by simp, hg, by simp, rfl, by simp, .inr ⟨c, rest, hc, rfl, rfl⟩⟩
  | @token n gap t w rest ps d hg ht _ ih =>
    obtain ⟨lead, words, last, hrest, hlead, hwords, rfl, hd, hlast⟩ := ih
    refine ⟨gap, ⟨t, w, lead⟩ :: words, last, ?_, hg, ?_, ?_, ?_, hlast⟩
    · change rest = _ at hrest
      simp [hrest, Word.text]
    · rintro (_ | ⟨v, before⟩) u after hsplit
      · obtain ⟨rfl, rfl⟩ := List.cons.inj hsplit
        exact ⟨hlead, hrest ▸ ht⟩
      · exact hwords before u after (List.cons.inj hsplit).2
    · simp [Word.placed, Word.text, Nat.add_assoc]
    · simp only [hd, Word.text, List.flatMap_cons, List.length_append]
      omega

/-- No character of a text is lost. It is spacing, then words one after the other, and then a rest
that is not read. There is such a rest only if a stray character is met, with which it starts; that
is the last token. -/
theorem exists_layout (source : Text) :
    ∃ (lead : Text) (words : List Word) (last : List Placed) (rest : Text),
      source = lead ++ words.flatMap Word.text ++ rest ∧ lead.Spacing ∧
      (∀ before w after, words = before ++ w :: after →
        w.Stands (lead ++ before.flatMap Word.text) (after.flatMap Word.text ++ rest)) ∧
      (start source).drain = (Word.placed lead.length words ++ last,
        ⟨(lead ++ words.flatMap Word.text).length, rest⟩) ∧
      (last = [] ∧ rest = [] ∨ ∃ c more, Alphabet.Stray c ∧ rest = c :: more ∧
        last = [⟨.stray c, (lead ++ words.flatMap Word.text).length⟩]) := by
  have h := (start source).laid_drain
  obtain ⟨lead, words, last, hrest, hlead, hwords, hps, hd, hlast⟩ := h.exists_words
  simp only [start, Nat.zero_add] at hrest hps hd
  refine ⟨lead, words, last, (start source).drain.2.rest, ?_, hlead, ?_, ?_, ?_⟩
  · rw [List.append_assoc]
    exact hrest
  · rintro before w after rfl
    obtain ⟨hgap, htaken⟩ := hwords before w after rfl
    exact ⟨htaken, hgap, Word.getLast_of_taken hlead hwords⟩
  · rw [← hd]
    exact Prod.ext hps rfl
  · rw [← hd]
    exact hlast

end Cursor

end Clearance
