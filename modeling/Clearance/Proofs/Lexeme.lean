import Clearance.Cursor
import Mathlib.Tactic.Common

/-! What stands at the front of a text for its first token, with regard to the text after it. -/
namespace Clearance

namespace Alphabet

/-- Characters that no bare label holds: those with a meaning of their own between labels. -/
def marks : List Char := ['(', ')', '&', '|', '"', '\\', ' ', '\t', '\n', '\r']

lemma isIdentifier_eq_false : ∀ c ∈ marks, isIdentifier c = false := by
  have hall : marks.all (fun c => !isIdentifier c) = true := by decide
  intro c hc
  simpa using List.all_eq_true.mp hall c hc

lemma not_mem_marks {c : Char} (h : isIdentifier c = true) : c ∉ marks := by
  intro hc
  rw [isIdentifier_eq_false c hc] at h
  contradiction

lemma isSpacing_eq_false {c : Char} (h : isIdentifier c = true) : isSpacing c = false := by
  have hm := not_mem_marks h
  simp only [marks, List.mem_cons, not_or] at hm
  simp [isSpacing, hm]

lemma isIdentifier_eq_false_of_isSpacing {c : Char} (h : isSpacing c = true) :
    isIdentifier c = false := by
  cases hi : isIdentifier c with
  | false => rfl
  | true =>
    rw [isSpacing_eq_false hi] at h
    contradiction

/-- A character that neither separates tokens nor starts one. -/
structure Stray (c : Char) : Prop where
  not_spacing : isSpacing c = false
  not_identifier : isIdentifier c = false
  not_mark : c ∉ ['(', ')', '&', '|', '"']

end Alphabet

namespace Label

/-- Read from the left, each backslash pairs with a quote or a backslash after it, and no quote
stands outside such a pair. -/
def wellEscaped : Text → Bool
  | [] => true
  | '"' :: _ => false
  | '\\' :: '"' :: rest => wellEscaped rest
  | '\\' :: '\\' :: rest => wellEscaped rest
  | '\\' :: _ => false
  | _ :: rest => wellEscaped rest

example : wellEscaped "a \\\"b\\\" & \\\\".toList = true := by decide
example : wellEscaped "\\\\\\".toList = false := by decide

lemma wellEscaped_plain {c : Char} (hq : c ≠ '"') (hb : c ≠ '\\') (rest : Text) :
    wellEscaped (c :: rest) = wellEscaped rest := by
  simp [wellEscaped, hb]

lemma wellEscaped_of_identifiers {s : Text} (h : ∀ c ∈ s, Alphabet.isIdentifier c = true) :
    wellEscaped s = true := by
  induction s with
  | nil => rfl
  | cons c s ih =>
    obtain ⟨hc, hs⟩ := List.forall_mem_cons.mp h
    have hm := Alphabet.not_mem_marks hc
    simp only [Alphabet.marks, List.mem_cons, not_or] at hm
    rw [wellEscaped_plain (by simp [hm]) (by simp [hm]), ih hs]

/-- No pair reaches beyond a well escaped text, so what follows is judged by itself. -/
lemma wellEscaped_append {l : Text} (h : wellEscaped l = true) (s : Text) :
    wellEscaped (l ++ s) = wellEscaped s := by
  fun_induction wellEscaped l with
  | case1 => rfl
  | case2 => contradiction
  | case3 rest ih => simpa [wellEscaped] using ih h
  | case4 rest ih => simpa [wellEscaped] using ih h
  | case5 => contradiction
  | case6 c rest hq _ _ hb ih => rw [List.cons_append, wellEscaped_plain hq hb, ih h]

end Label

namespace Token

@[simp] lemma quoted_quote (rest : Text) : quoted ('"' :: rest) = ([], 1) := by
  cases rest <;> simp [quoted]

lemma quoted_pair {d : Char} (h : d = '"' ∨ d = '\\') (rest : Text) :
    quoted ('\\' :: d :: rest) = ('\\' :: d :: (quoted rest).1, (quoted rest).2 + 2) := by
  simp [quoted, h]

lemma quoted_plain {c : Char} (hq : c ≠ '"') (hb : c ≠ '\\') (rest : Text) :
    quoted (c :: rest) = (c :: (quoted rest).1, (quoted rest).2 + 1) := by
  cases rest <;> simp [quoted, hq, hb]

/-- A well escaped text after an opening quote belongs to the label, whatever follows. -/
lemma quoted_append {l : Text} (h : Label.wellEscaped l = true) (rest : Text) :
    quoted (l ++ rest) = (l ++ (quoted rest).1, l.length + (quoted rest).2) := by
  fun_induction Label.wellEscaped l with
  | case1 => simp
  | case2 => contradiction
  | case3 s ih =>
    simp only [List.cons_append, List.length_cons]
    rw [quoted_pair (.inl rfl), ih h, Nat.add_right_comm]
  | case4 s ih =>
    simp only [List.cons_append, List.length_cons]
    rw [quoted_pair (.inr rfl), ih h, Nat.add_right_comm]
  | case5 => contradiction
  | case6 c s hq _ _ hb ih =>
    rw [List.cons_append, quoted_plain hq hb, ih h, List.length_cons, Nat.add_right_comm]
    rfl

/-- What ends a label after an opening quote, and the text after that: a closing quote, a backslash
that pairs with nothing, or the end of the text. -/
inductive Ends : Text → Text → Prop
  | quote {rest} : Ends ['"'] rest
  | backslash {rest} (unpaired : ∀ c ∈ rest.head?, c ≠ '"' ∧ c ≠ '\\') : Ends ['\\'] rest
  | finish : Ends [] []

lemma quoted_of_ends {ending rest : Text} (h : Ends ending rest) :
    quoted (ending ++ rest) = ([], ending.length) := by
  cases h with
  | quote => exact quoted_quote rest
  | backslash unpaired =>
    cases rest with
    | nil => rfl
    | cons c rest => simp [quoted, unpaired c rfl]
  | finish => rfl

/-- After an opening quote stands a well escaped label and then something that ends it. -/
lemma exists_ends (s : Text) : Label.wellEscaped (quoted s).1 = true ∧
    ∃ ending rest, s = (quoted s).1 ++ (ending ++ rest) ∧ Ends ending rest := by
  fun_induction quoted s with
  | case1 => exact ⟨rfl, [], [], rfl, .finish⟩
  | case2 rest => exact ⟨rfl, ['"'], rest, rfl, .quote⟩
  | case3 => exact ⟨rfl, ['\\'], [], rfl, .backslash (by simp)⟩
  | case4 d rest hd q _ ih =>
    obtain ⟨hl, ending, after, hs, hends⟩ := ih
    refine ⟨?_, ending, after, congrArg (fun s => '\\' :: d :: s) hs, hends⟩
    obtain rfl | rfl := hd <;> simpa [Label.wellEscaped] using hl
  | case5 d rest hd =>
    refine ⟨rfl, ['\\'], d :: rest, rfl, .backslash ?_⟩
    rintro _ ⟨⟩
    exact not_or.mp hd
  | case6 c rest hq hb q ih =>
    obtain ⟨hl, ending, after, hs, hends⟩ := ih
    exact ⟨(Label.wellEscaped_plain hq hb _).trans hl, ending, after, congrArg (c :: ·) hs, hends⟩

/-- No bare label runs on into a text that starts with none of the identifier characters. -/
def Bounds (rest : Text) : Prop := ∀ c ∈ rest.head?, Alphabet.isIdentifier c = false

lemma Bounds.append {s rest : Text} (hs : Bounds s) (hr : Bounds rest) : Bounds (s ++ rest) := by
  cases s with
  | nil => exact hr
  | cons c s => exact hs

/-- A token, what stands for it at the front of a text, and the text after that. A bare label is as
long as it can be. -/
inductive Taken : Token → Text → Text → Prop
  | openParen {rest} : Taken .openParen ['('] rest
  | closeParen {rest} : Taken .closeParen [')'] rest
  | and {rest} : Taken .and ['&'] rest
  | or {rest} : Taken .or ['|'] rest
  | bare {l rest} (ne_nil : l ≠ []) (run : ∀ c ∈ l, Alphabet.isIdentifier c = true)
      (maximal : Bounds rest) : Taken (.label l) l rest
  | quoted {l ending rest} (escaped : Label.wellEscaped l = true) (ends : Ends ending rest) :
      Taken (.label l) ('"' :: l ++ ending) rest

lemma Taken.ne_nil {t : Token} {w rest : Text} (h : Taken t w rest) : w ≠ [] := by
  cases h <;> simp_all

lemma Taken.isLast {t : Token} {w rest : Text} (h : Taken t w rest) : t.isLast = false := by
  cases h <;> rfl

lemma Taken.head_not_spacing {t : Token} {w rest : Text} (h : Taken t w rest) :
    ∀ c ∈ (w ++ rest).head?, Alphabet.isSpacing c = false := by
  obtain ⟨d, s, rfl⟩ := List.exists_cons_of_ne_nil h.ne_nil
  rintro _ ⟨⟩
  cases h with
  | bare _ run _ => exact Alphabet.isSpacing_eq_false (run d (by simp))
  | _ => rfl

/-- Of two neighbouring identifier characters no token ends with the first. -/
lemma Taken.getLast_or_bounds {t : Token} {w rest : Text} (h : Taken t w rest) :
    (∀ c ∈ w.getLast?, Alphabet.isIdentifier c = false) ∨ Bounds rest := by
  cases h with
  | bare _ _ maximal => exact .inr maximal
  | quoted _ ends =>
    cases ends with
    | finish => exact .inr (by simp [Bounds])
    | _ =>
      refine .inl ?_
      rw [List.getLast?_concat]
      rintro _ ⟨⟩
      rfl
  | _ =>
    refine .inl ?_
    rintro _ ⟨⟩
    rfl

/-- Labels are well escaped however they are written. -/
lemma Taken.wellEscaped {l w rest : Text} (h : Taken (.label l) w rest) :
    Label.wellEscaped l = true := by
  cases h with
  | bare _ run _ => exact Label.wellEscaped_of_identifiers run
  | quoted escaped _ => exact escaped

/-- A closing parenthesis after the text does not change what is taken off its front, unless that is
a label up to the end of the text. -/
lemma Taken.append_closeParen {t : Token} {w rest : Text} (h : Taken t w rest)
    (hq : ∀ l, w = '"' :: l → t = .label l → rest ≠ []) (more : Text) :
    Taken t w (rest ++ ')' :: more) := by
  cases h with
  | openParen => exact .openParen
  | closeParen => exact .closeParen
  | and => exact .and
  | or => exact .or
  | bare hne run maximal =>
    refine .bare hne run (maximal.append ?_)
    rintro _ ⟨⟩
    rfl
  | @quoted l _ _ escaped ends =>
    refine .quoted escaped ?_
    cases ends with
    | quote => exact .quote
    | backslash unpaired =>
      refine .backslash ?_
      cases rest with
      | nil => simp
      | cons c rest => exact unpaired
    | finish => exact absurd rfl (hq l (List.append_nil _) rfl)

lemma takeWhile_append_of_stop {p : Char → Bool} {s rest : Text} (hs : ∀ c ∈ s, p c = true)
    (hr : ∀ c ∈ rest.head?, p c = false) : (s ++ rest).takeWhile p = s := by
  rw [List.takeWhile_append_of_pos hs]
  cases rest with
  | nil => simp
  | cons c rest => simp [hr c (by simp)]

lemma stop_dropWhile (p : Char → Bool) (s : Text) : ∀ c ∈ (s.dropWhile p).head?, p c = false := by
  intro c hc
  have hnot := List.head?_dropWhile_not p s
  rw [Option.mem_def.mp hc] at hnot
  exact hnot

theorem read_taken {t : Token} {w rest : Text} (h : Taken t w rest) :
    read (w ++ rest) = (t, w.length) := by
  cases h with
  | openParen => rfl
  | closeParen => rfl
  | and => rfl
  | or => rfl
  | bare hne run maximal =>
    obtain ⟨c, s, rfl⟩ := List.exists_cons_of_ne_nil hne
    have hc : Alphabet.isIdentifier c = true := run c (by simp)
    have hm := Alphabet.not_mem_marks hc
    have ht := takeWhile_append_of_stop run maximal
    simp only [Alphabet.marks, List.mem_cons, not_or] at hm
    rw [List.cons_append] at ht ⊢
    simp [read, hm, hc, ht]
  | @quoted l ending _ escaped ends =>
    have hq := quoted_append escaped (ending ++ rest)
    rw [quoted_of_ends ends] at hq
    simp [read, hq]

/-- The first token of a text is its end, a stray character or one that is taken off its front. -/
theorem read_cases (s : Text) (hs : ∀ c ∈ s.head?, Alphabet.isSpacing c = false) :
    s = [] ∨ (∃ c rest, s = c :: rest ∧ Alphabet.Stray c ∧ read s = (.stray c, 0)) ∨
      ∃ t w rest, s = w ++ rest ∧ Taken t w rest := by
  fun_cases read s with
  | case1 => exact .inl rfl
  | case2 rest => exact .inr (.inr ⟨_, _, rest, rfl, .openParen⟩)
  | case3 rest => exact .inr (.inr ⟨_, _, rest, rfl, .closeParen⟩)
  | case4 rest => exact .inr (.inr ⟨_, _, rest, rfl, .and⟩)
  | case5 rest => exact .inr (.inr ⟨_, _, rest, rfl, .or⟩)
  | case6 rest =>
    obtain ⟨escaped, ending, after, h, ends⟩ := exists_ends rest
    refine .inr (.inr ⟨_, '"' :: (quoted rest).1 ++ ending, after, ?_, .quoted escaped ends⟩)
    rw [List.cons_append, List.cons_append, List.append_assoc, ← h]
  | case7 c rest _ _ _ _ _ hi =>
    refine .inr (.inr ⟨_, _, (c :: rest).dropWhile Alphabet.isIdentifier,
      List.takeWhile_append_dropWhile.symm, .bare (by simp [hi]) ?_ (stop_dropWhile _ _)⟩)
    exact List.all_eq_true.mp List.all_takeWhile
  | case8 c rest ho hc ha hr hq hi =>
    have hstray : Alphabet.Stray c := ⟨hs c rfl, by simpa using hi, by simp [ho, hc, ha, hr, hq]⟩
    exact .inr (.inl ⟨c, rest, rfl, hstray, rfl⟩)

end Token

end Clearance
