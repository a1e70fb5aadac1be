import Clearance.Draft.Render
import Clearance.Proofs.Layout
import Mathlib.Data.List.Chain

/-! How tokens are spelled, and that reading a spelled token off a text gives the token back. -/
namespace Clearance

namespace Token

/-- The ways to write a token. -/
inductive Spelled : Token → Text → Prop
  | openParen : Spelled .openParen ['(']
  | closeParen : Spelled .closeParen [')']
  | and : Spelled .and ['&']
  | or : Spelled .or ['|']
  | quoted {l : Text} (h : Label.wellEscaped l = true) : Spelled (.label l) ('"' :: l ++ ['"'])
  | bare {l : Text} (hne : l ≠ []) (h : ∀ c ∈ l, Alphabet.isIdentifier c = true) :
      Spelled (.label l) l

/-- What a spelling needs of the text after it: only bare labels need anything. -/
def Apart (spelling rest : Text) : Prop :=
  (∀ c ∈ spelling, Alphabet.isIdentifier c = true) → Bounds rest

lemma apart_of_not_mem {spelling : Text} {c : Char} (hc : c ∈ spelling)
    (h : Alphabet.isIdentifier c = false) (rest : Text) : Apart spelling rest := by
  intro hall
  rw [hall c hc] at h
  contradiction

lemma Spelled.taken {t : Token} {w rest : Text} (h : Spelled t w) (ha : Apart w rest) :
    Taken t w rest := by
  cases h with
  | openParen => exact .openParen
  | closeParen => exact .closeParen
  | and => exact .and
  | or => exact .or
  | quoted h => exact .quoted h .quote
  | bare hne hall => exact .bare hne hall (ha hall)

/-- Only a bare label starts with an identifier character. -/
lemma Spelled.bounds {t : Token} {w : Text} (h : Spelled t w)
    (hw : ¬ ∀ c ∈ w, Alphabet.isIdentifier c = true) (rest : Text) : Bounds (w ++ rest) := by
  cases h with
  | bare _ hall => exact absurd hall hw
  | _ =>
    rintro _ ⟨⟩
    rfl

lemma Spelled.ne_nil {t : Token} {w : Text} (h : Spelled t w) : w ≠ [] := by
  cases h <;> simp_all

lemma Spelled.isLast {t : Token} {w : Text} (h : Spelled t w) : t.isLast = false := by
  cases h <;> rfl

/-- The tokens of a text, wherever they stand in it. -/
def list (source : Text) : List Token := (stream source).map Placed.token

end Token

namespace Cursor

lemma next_rest (c : Cursor) : c.next.2.rest = c.skip.rest.drop (Token.read c.skip.rest).2 := rfl

/-- Neither the place where reading starts nor spacing in front is of account for the tokens. -/
lemma map_token_drain_congr {c d : Cursor} (h : c.skip.rest = d.skip.rest) :
    c.drain.1.map Placed.token = d.drain.1.map Placed.token := by
  induction hk : c.rest.length using Nat.strongRecOn generalizing c d with
  | ind k ih =>
    have ht : c.next.1.token = d.next.1.token := by rw [next_token, next_token, h]
    cases hl : c.next.1.token.isLast with
    | true =>
      rw [drain_of_last hl, drain_of_last (c := d) (ht ▸ hl), ht]
      split
      · rfl
      · exact congrArg (fun t => [t]) ht
    | false =>
      have hs := next_shorter hl
      have hr : c.next.2.skip.rest = d.next.2.skip.rest := by
        rw [skip_rest, skip_rest, next_rest, next_rest, h]
      rw [drain_of_more hl, drain_of_more (c := d) (ht ▸ hl), List.map_cons, List.map_cons, ht,
        ih _ (hk ▸ hs) hr rfl]

theorem map_token_drain (c : Cursor) : c.drain.1.map Placed.token = Token.list c.rest :=
  map_token_drain_congr rfl

end Cursor

namespace Token

lemma list_append_spacing {gap : Text} (hg : ∀ c ∈ gap, Alphabet.isSpacing c = true)
    (s : Text) : list (gap ++ s) = list s := by
  apply Cursor.map_token_drain_congr
  simp only [Cursor.skip_rest, Cursor.start]
  exact List.dropWhile_append_of_pos hg

@[simp] lemma list_nil : list [] = [] := by
  rw [list, stream, Cursor.drain_of_last rfl]
  rfl

/-- Taking the first token off a text that starts with it. -/
theorem list_taken {t : Token} {w rest : Text} (h : Taken t w rest) :
    list (w ++ rest) = t :: list rest := by
  have hn := Cursor.next_taken (n := 0) Text.spacing_nil h
  rw [List.nil_append] at hn
  have hl : (⟨0, w ++ rest⟩ : Cursor).next.1.token.isLast = false := by
    rw [hn]
    exact h.isLast
  rw [list, stream, Cursor.start, Cursor.drain_of_more hl, hn, List.map_cons,
    Cursor.map_token_drain]

theorem list_spelled {t : Token} {w rest : Text} (h : t.Spelled w) (ha : Apart w rest) :
    list (w ++ rest) = t :: list rest := list_taken (h.taken ha)

/-- The tokens that a text contributes in front of any text that bounds its labels. -/
def Spells (s : Text) (ts : List Token) : Prop :=
  ∀ rest, Bounds rest → list (s ++ rest) = ts ++ list rest

lemma Spells.nil : Spells [] [] := fun _ _ => rfl

lemma Spells.token {t : Token} {w : Text} (h : t.Spelled w) : Spells w [t] := by
  intro rest hr
  exact list_spelled h fun _ => hr

lemma Spells.append {s s' : Text} {ts ts' : List Token} (h : Spells s ts) (hb : Bounds s')
    (h' : Spells s' ts') : Spells (s ++ s') (ts ++ ts') := by
  intro rest hr
  rw [List.append_assoc, h _ (hb.append hr), h' rest hr, List.append_assoc]

lemma Spells.cons_spacing {c : Char} (hc : Alphabet.isSpacing c = true) {s : Text}
    {ts : List Token} (h : Spells s ts) : Spells (c :: s) ts := by
  intro rest hr
  have hgap : ∀ d ∈ [c], Alphabet.isSpacing d = true := by simpa using hc
  rw [← h rest hr]
  exact list_append_spacing hgap (s ++ rest)

lemma Spells.cons_mark {t : Token} {c : Char} (ht : t.Spelled [c])
    (hc : Alphabet.isIdentifier c = false) {s : Text} {ts : List Token} (h : Spells s ts) :
    Spells (c :: s) (t :: ts) := by
  intro rest hr
  rw [List.cons_append, List.cons_append, ← h rest hr]
  exact list_spelled ht (apart_of_not_mem (by simp) hc _)

lemma Spells.list_eq {s : Text} {ts : List Token} (h : Spells s ts) : list s = ts := by
  have he := h [] (by simp [Bounds])
  simpa using he

/-- One way to write a token: each label between quotes. -/
def spelling : Token → Text
  | label l => '"' :: l ++ ['"']
  | openParen => ['(']
  | closeParen => [')']
  | and => ['&']
  | or => ['|']
  | finish => []
  | stray c => [c]

lemma spelled_spelling {t : Token} (hl : t.isLast = false)
    (hw : ∀ l, t = .label l → Label.wellEscaped l = true) : t.Spelled t.spelling := by
  cases t with
  | label l => exact .quoted (hw l rfl)
  | openParen => exact .openParen
  | closeParen => exact .closeParen
  | and => exact .and
  | or => exact .or
  | finish => contradiction
  | stray c => contradiction

/-- Spelled so, no token needs spacing around it. -/
lemma apart_spelling {t : Token} (h : t.Spelled t.spelling) (rest : Text) :
    Apart t.spelling rest := by
  have hmark : ∀ c ∈ Alphabet.marks, c ∈ t.spelling → Apart t.spelling rest :=
    fun c hc hm => apart_of_not_mem hm (Alphabet.isIdentifier_eq_false c hc) rest
  cases t with
  | label l => exact hmark '"' (by decide) (by simp [spelling])
  | openParen => exact hmark '(' (by decide) (by simp [spelling])
  | closeParen => exact hmark ')' (by decide) (by simp [spelling])
  | and => exact hmark '&' (by decide) (by simp [spelling])
  | or => exact hmark '|' (by decide) (by simp [spelling])
  | finish => exact absurd rfl h.ne_nil
  | stray c => cases h.isLast

/-- Tokens spelled one after the other are read back. -/
theorem list_flatMap_spelling {ts : List Token} (h : ∀ t ∈ ts, t.Spelled t.spelling) :
    list (ts.flatMap spelling) = ts := by
  induction ts with
  | nil => simp
  | cons t ts ih =>
    obtain ⟨ht, hts⟩ := List.forall_mem_cons.mp h
    rw [List.flatMap_cons, list_spelled ht (apart_spelling ht _), ih hts]

end Token

namespace Word

/-- What is written for it may be a bare label. -/
def Bare (w : Word) : Prop := ∀ c ∈ w.spelling, Alphabet.isIdentifier c = true

instance (w : Word) : Decidable w.Bare :=
  decidable_of_iff (w.spelling.all Alphabet.isIdentifier = true) List.all_eq_true

/-- Words that may be written one after the other: two bare labels need spacing between them. -/
structure Written (words : List Word) : Prop where
  spelled : ∀ w ∈ words, w.token.Spelled w.spelling
  spacing : ∀ w ∈ words, w.gap.Spacing
  apart : words.IsChain fun v w => v.Bare → w.Bare → v.gap ≠ []

lemma Written.tail {w : Word} {ws : List Word} (h : Written (w :: ws)) : Written ws :=
  ⟨(List.forall_mem_cons.mp h.spelled).2, (List.forall_mem_cons.mp h.spacing).2, h.apart.tail⟩

/-- What is written for the first of some words is taken for it. -/
lemma Written.taken {w : Word} {ws : List Word} (h : Written (w :: ws)) :
    w.token.Taken w.spelling (w.gap ++ ws.flatMap text) := by
  refine (h.spelled w (by simp)).taken ?_
  intro hbare
  by_cases hg : w.gap = []
  · rw [hg, List.nil_append]
    cases ws with
    | nil => simp [Token.Bounds]
    | cons v ws =>
      have hv : ¬ v.Bare := fun hv => (List.isChain_cons_cons.mp h.apart).1 hbare hv hg
      rw [List.flatMap_cons, text, List.append_assoc]
      exact (h.spelled v (by simp)).bounds hv _
  · exact (h.spacing w (by simp)).bounds hg _

lemma Written.laid {words : List Word} (h : Written words) {n : Nat} {lead : Text}
    (hlead : lead.Spacing) : Cursor.Laid ⟨n, lead ++ words.flatMap text⟩
      (placed (n + lead.length) words) ⟨n + (lead ++ words.flatMap text).length, []⟩ := by
  induction words generalizing n lead with
  | nil => simpa [placed] using Cursor.Laid.finish hlead
  | cons w ws ih =>
    have htail := ih h.tail (n := n + lead.length + w.spelling.length) (h.spacing w (by simp))
    have hl := Cursor.Laid.token hlead h.taken htail
    simpa [placed, text, Nat.add_assoc] using hl

end Word

namespace Cursor

/-- However tokens are written one after the other, they are read back, each at the position where
it was written, and then the text is at its end. -/
theorem drain_written {lead : Text} {words : List Word} (hlead : lead.Spacing)
    (h : Word.Written words) : (start (lead ++ words.flatMap Word.text)).drain =
      (Word.placed lead.length words, ⟨(lead ++ words.flatMap Word.text).length, []⟩) := by
  simpa [start] using (h.laid hlead (n := 0)).drain_eq

/-- Between two bare labels stands a quoted one, with a parenthesis and an escaped quote in it. -/
theorem drain_written_adjacent :
    let words : List Word := [⟨.label ['x', '1'], ['x', '1'], []⟩,
      ⟨.label ['(', '\\', '"'], ['"', '(', '\\', '"', '"'], []⟩, ⟨.label ['y'], ['y'], ['\n']⟩,
      ⟨.label ['z'], ['z'], []⟩, ⟨.and, ['&'], [' ']⟩, ⟨.label [], ['"', '"'], []⟩]
    Text.Spacing ['\t'] ∧ Word.Written words ∧
      (start ("\tx1\"(\\\"\"y\nz& \"\"".toList)).drain =
        ([⟨.label ['x', '1'], 1⟩, ⟨.label ['(', '\\', '"'], 3⟩, ⟨.label ['y'], 8⟩,
          ⟨.label ['z'], 10⟩, ⟨.and, 11⟩, ⟨.label [], 13⟩], ⟨15, []⟩) := by
  intro words
  have hlead : Text.Spacing ['\t'] := by simp [Text.Spacing, Alphabet.isSpacing]
  have h : Word.Written words := by
    refine ⟨?_, ?_, by decide⟩
    · simp only [words, List.forall_mem_cons]
      exact ⟨.bare (by decide) (List.all_eq_true.mp (by decide)), .quoted (by decide),
        .bare (by decide) (List.all_eq_true.mp (by decide)),
        .bare (by decide) (List.all_eq_true.mp (by decide)), .and, .quoted (by decide), by simp⟩
    · simp [words, Text.Spacing, Alphabet.isSpacing]
  exact ⟨hlead, h, drain_written hlead h⟩

end Cursor

end Clearance
