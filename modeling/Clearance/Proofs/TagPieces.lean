import Clearance.Display.Markup
import Clearance.Proofs.Lexeme

/-! How a text falls into tag-like pieces and other characters, each with the backslashes directly
before it, and a rest of backslashes at its end. -/
namespace Clearance.Display.Markup

/-- Brackets around a first character that starts a tag and others, none of them a bracket. -/
inductive IsTag : Text → Prop
  | mk {c : Char} {body : Text} (starts : startsTag c = true)
      (inside : ∀ d ∈ body, d ≠ '[' ∧ d ≠ ']') : IsTag ('[' :: c :: (body ++ [']']))

variable {s piece after rest u : Text} {c : Char} {ps : List Piece} {k : Nat}

lemma ne_of_startsTag (h : startsTag c = true) : c ≠ '[' ∧ c ≠ ']' := by
  constructor
  · rintro rfl
    contradiction
  · rintro rfl
    contradiction

theorem tag?_eq_some_iff : tag? s = some (piece, after) ↔ IsTag piece ∧ s = piece ++ after := by
  constructor
  · intro h
    unfold tag? at h
    split at h
    · rename_i c rest
      split at h
      · rename_i hc
        dsimp only at h
        split at h
        · rename_i hrest
          obtain ⟨rfl, rfl⟩ : _ ∧ _ := by simpa using h
          refine ⟨.mk hc ?_, ?_⟩
          · intro d hd
            simpa using List.all_eq_true.mp List.all_takeWhile d hd
          · have hsplit := List.prefix_iff_eq_append.mp
              (List.takeWhile_prefix (l := rest) fun d => d != '[' && d != ']')
            rw [hrest] at hsplit
            simp [hsplit]
        · simp at h
      · simp at h
    · simp at h
  · rintro ⟨⟨starts, inside⟩, rfl⟩
    rename_i c body
    have hbody : (body ++ ']' :: after).takeWhile (fun d => d != '[' && d != ']') = body :=
      Token.takeWhile_append_of_stop (by simpa using inside) (by simp)
    simp [tag?, starts, hbody]

/-- Whether a text that follows an opening bracket, up to the next one, makes a tag of it. -/
def closes (s : Text) : Bool := s.head?.any startsTag && s.contains ']'

/-- Backslashes at the end of it are of no account. -/
lemma closes_append_slashes (s : Text) (n : Nat) : closes (s ++ slashes n) = closes s := by
  have hs : startsTag slash = false := by decide
  have hne : slash ≠ ']' := by decide
  cases s with
  | nil => cases n <;> simp [closes, slashes, List.replicate_succ, hs]
  | cons c s => simp [closes, slashes, hne.symm]

def upToOpening (s : Text) : Text := s.takeWhile (· != '[')

lemma upToOpening_slashes (n : Nat) (s : Text) :
    upToOpening (slashes n ++ s) = slashes n ++ upToOpening s := by
  apply List.takeWhile_append_of_pos
  intro c hc
  rw [List.eq_of_mem_replicate hc]
  decide

lemma upToOpening_opening (s : Text) : upToOpening ('[' :: s) = [] := by simp [upToOpening]

lemma upToOpening_cons (hc : c ≠ '[') (s : Text) : upToOpening (c :: s) = c :: upToOpening s := by
  simp [upToOpening, hc]

lemma isSome_tag?_opening (s : Text) : (tag? ('[' :: s)).isSome = closes (upToOpening s) := by
  rw [Bool.eq_iff_iff, Option.isSome_iff_exists]
  constructor
  · rintro ⟨⟨piece, after⟩, h⟩
    obtain ⟨⟨starts, inside⟩, hs⟩ := tag?_eq_some_iff.mp h
    rename_i c body
    obtain rfl : s = (c :: body ++ [']']) ++ after := by simpa using hs
    have hopening : ∀ d ∈ c :: body ++ [']'], (d != '[') = true := by
      simp only [List.forall_mem_append, List.forall_mem_cons, bne_iff_ne]
      exact ⟨⟨(ne_of_startsTag starts).1, fun d hd => (inside d hd).1⟩, by decide, nofun⟩
    rw [upToOpening, List.takeWhile_append_of_pos hopening]
    simp [closes, starts]
  · intro h
    rw [closes, Bool.and_eq_true, List.contains_iff_mem, Option.any_eq_true] at h
    obtain ⟨⟨c, hc, starts⟩, hmem⟩ := h
    obtain ⟨w, hw⟩ := List.head?_eq_some_iff.mp hc
    rw [hw] at hmem
    have hmem : ']' ∈ w := List.mem_of_ne_of_mem (ne_of_startsTag starts).2.symm hmem
    obtain ⟨body, rest, rfl, hbody⟩ := List.eq_append_cons_of_mem hmem
    have hall : ∀ d ∈ upToOpening s, d ≠ '[' := by
      intro d hd
      simpa using List.all_eq_true.mp List.all_takeWhile d hd
    have htag : IsTag ('[' :: c :: (body ++ [']'])) := by
      refine .mk starts fun d hd => ⟨hall d (by rw [hw]; simp [hd]), ?_⟩
      rintro rfl
      exact hbody hd
    have hs : upToOpening s ++ s.dropWhile (· != '[') = s := List.takeWhile_append_dropWhile
    rw [hw] at hs
    exact ⟨(_, rest ++ s.dropWhile (· != '[')),
      tag?_eq_some_iff.mpr ⟨htag, by simpa using hs.symm⟩⟩

lemma isSlash_iff : isSlash c = true ↔ c = slash := beq_iff_eq

lemma IsTag.head (h : IsTag piece) : ∃ w, piece = '[' :: w := by
  cases h
  exact ⟨_, rfl⟩

/-- The backslashes at the front of a text are counted up to the first other character. -/
lemma drop_run (n : Nat) (hu : ∀ c ∈ u.head?, c ≠ slash) :
    ((slashes n ++ u).takeWhile isSlash).length = n ∧
      (slashes n ++ u).drop ((slashes n ++ u).takeWhile isSlash).length = u := by
  have hrun : (slashes n ++ u).takeWhile isSlash = slashes n := by
    apply Token.takeWhile_append_of_stop
    · intro c hc
      exact isSlash_iff.mpr (List.eq_of_mem_replicate hc)
    · intro c hc
      simpa [isSlash] using hu c hc
  rw [hrun]
  simp [slashes]

lemma pieces_of_tag (h : tag? (s.drop (s.takeWhile isSlash).length) = some (piece, after)) :
    pieces s = .tag (s.takeWhile isSlash).length piece :: pieces after := by
  cases s with
  | nil => simp [tag?] at h
  | cons c rest =>
    rw [pieces]
    split
    · rename_i heq
      obtain ⟨rfl, rfl⟩ : _ ∧ _ := by simpa [h] using heq
      rfl
    · rename_i heq
      simp [h] at heq

lemma pieces_of_none
    (h : tag? ((c :: rest).drop ((c :: rest).takeWhile isSlash).length) = none) :
    pieces (c :: rest) = .char c :: pieces rest := by
  rw [pieces]
  split
  · rename_i heq
    simp [h] at heq
  · rfl

lemma pieces_tag (n : Nat) (h : IsTag piece) (after : Text) :
    pieces (slashes n ++ (piece ++ after)) = .tag n piece :: pieces after := by
  obtain ⟨w, hw⟩ := h.head
  obtain ⟨hlength, hdrop⟩ := drop_run (u := piece ++ after) n (by
    rw [hw]
    rintro _ ⟨⟩
    decide)
  have hsome : tag? (piece ++ after) = some (piece, after) := tag?_eq_some_iff.mpr ⟨h, rfl⟩
  rw [pieces_of_tag (by rw [hdrop, hsome]), hlength]

lemma pieces_run (n : Nat) (hu : ∀ c ∈ u.head?, c ≠ slash) (h : tag? u = none) :
    pieces (slashes n ++ u) = List.replicate n (.char slash) ++ pieces u := by
  induction n with
  | zero => rfl
  | succ n ih =>
    have hdrop := (drop_run (n + 1) hu).2
    rw [slashes, List.replicate_succ, List.cons_append] at hdrop ⊢
    rw [pieces_of_none (by rw [hdrop, h])]
    exact congrArg (.char slash :: ·) ih

lemma pieces_slashes (n : Nat) : pieces (slashes n) = List.replicate n (.char slash) := by
  simpa using pieces_run (u := []) n nofun rfl

lemma pieces_plain (n : Nat) (hc : c ≠ slash) (h : tag? (c :: rest) = none) :
    pieces (slashes n ++ c :: rest) =
      List.replicate n (.char slash) ++ .char c :: pieces rest := by
  have hu : ∀ d ∈ (c :: rest).head?, d ≠ slash := by
    rintro _ ⟨⟩
    exact hc
  have hdrop := (drop_run 0 hu).2
  rw [pieces_run n hu h, pieces_of_none]
  rw [show slashes 0 = [] from rfl, List.nil_append] at hdrop
  rw [hdrop, h]

/-- A text in its pieces, up to the backslashes that it ends in. Before every tag-like piece and
every other character stand backslashes, none or more. -/
inductive Parts : Text → List Piece → Nat → Prop
  | finish (k : Nat) : Parts (slashes k) [] k
  | tag (n : Nat) {piece after : Text} {ps : List Piece} {k : Nat} (opens : IsTag piece)
      (more : Parts after ps k) : Parts (slashes n ++ (piece ++ after)) (.tag n piece :: ps) k
  | plain (n : Nat) {c : Char} {rest : Text} {ps : List Piece} {k : Nat} (hc : c ≠ slash)
      (ht : tag? (c :: rest) = none) (more : Parts rest ps k) :
      Parts (slashes n ++ c :: rest) (List.replicate n (.char slash) ++ .char c :: ps) k

lemma Parts.pieces_eq (h : Parts s ps k) :
    pieces s = ps ++ List.replicate k (.char slash) := by
  induction h with
  | finish k => exact pieces_slashes k
  | tag n opens more ih => rw [pieces_tag n opens, ih, List.cons_append]
  | plain n hc ht more ih => rw [pieces_plain n hc ht, ih, List.append_assoc, List.cons_append]

theorem exists_parts (s : Text) : ∃ ps k, Parts s ps k := by
  induction hl : s.length using Nat.strongRecOn generalizing s with
  | ind l ih =>
    obtain ⟨n, u, rfl, hu⟩ : ∃ n u, s = slashes n ++ u ∧ ∀ c ∈ u.head?, c ≠ slash := by
      refine ⟨(s.takeWhile isSlash).length, s.dropWhile isSlash, ?_, ?_⟩
      · have hrun : s.takeWhile isSlash = slashes (s.takeWhile isSlash).length :=
          List.eq_replicate_of_mem fun c hc =>
            isSlash_iff.mp (List.all_eq_true.mp List.all_takeWhile c hc)
        rw [← hrun, List.takeWhile_append_dropWhile]
      · intro c hc
        simpa [isSlash] using Token.stop_dropWhile isSlash s c hc
    rw [List.length_append] at hl
    cases u with
    | nil => exact ⟨[], n, by simpa using Parts.finish n⟩
    | cons c rest =>
      cases ht : tag? (c :: rest) with
      | none =>
        obtain ⟨ps, k, h⟩ := ih rest.length (by simp at hl; omega) rest rfl
        exact ⟨_, k, .plain n (hu c rfl) ht h⟩
      | some p =>
        obtain ⟨piece, after⟩ := p
        have hshort := tag?_shorter ht
        obtain ⟨opens, hsplit⟩ := tag?_eq_some_iff.mp ht
        obtain ⟨ps, k, h⟩ := ih after.length (by omega) after rfl
        rw [hsplit]
        exact ⟨_, k, .tag n opens h⟩

end Clearance.Display.Markup
