import Clearance.Proofs.TagPieces

/-! What is shown of an escaped text between two tags. No tag-like piece of the text takes effect,
but the tag after it takes half of the backslashes that it ends in, and a backslash directly before
a bracket that opens no tag is not shown. -/
namespace Clearance.Display.Markup
variable {s t piece after rest u : Text} {c : Char} {ps : List Piece} {k : Nat}

/-- A piece as it is found again in the escaped text. -/
def Piece.raise : Piece → Piece
  | .char c => .char c
  | .tag n piece => .tag (2 * n + 1) piece

lemma flatMap_escape_run (n : Nat) (c : Char) (ps : List Piece) :
    (List.replicate n (Piece.char slash) ++ Piece.char c :: ps).flatMap Piece.escape =
      slashes n ++ c :: ps.flatMap Piece.escape := by
  simp [slashes, Piece.escape, List.flatMap_replicate]

/-- Up to the next opening bracket, only backslashes are put into an escaped text. -/
lemma Parts.upToOpening_escape (h : Parts s ps k) (m : Nat) (u : Text) :
    ∃ w i j, upToOpening s = w ++ slashes i ∧
      upToOpening (ps.flatMap Piece.escape ++ (slashes m ++ '[' :: u)) = w ++ slashes j := by
  -- What follows an opening bracket is of no account, so only plain characters lead further on.
  induction h with
  | finish k =>
    refine ⟨[], k, m, ?_, ?_⟩
    · simpa [upToOpening] using upToOpening_slashes k []
    · rw [List.flatMap_nil, List.nil_append, upToOpening_slashes, upToOpening_opening,
        List.append_nil, List.nil_append]
  | tag n opens more ih =>
    obtain ⟨w, rfl⟩ := opens.head
    refine ⟨[], n, 2 * n + 1, ?_, ?_⟩
    · rw [upToOpening_slashes, List.cons_append, upToOpening_opening, List.append_nil,
        List.nil_append]
    · rw [List.flatMap_cons, Piece.escape, List.append_assoc, List.append_assoc,
        upToOpening_slashes, List.cons_append, upToOpening_opening, List.append_nil,
        List.nil_append]
  | @plain n c rest ps k hc ht more ih =>
    rw [flatMap_escape_run, List.append_assoc, List.cons_append, upToOpening_slashes,
      upToOpening_slashes]
    by_cases hopening : c = '['
    · rw [hopening, upToOpening_opening, upToOpening_opening]
      exact ⟨slashes n, 0, 0, rfl, rfl⟩
    · obtain ⟨w, i, j, hs, he⟩ := ih
      rw [upToOpening_cons hopening, upToOpening_cons hopening, hs, he]
      exact ⟨slashes n ++ c :: w, i, j, by simp, by simp⟩

/-- A bracket that opens no tag does not open one before the escaped text. -/
lemma Parts.tag?_escape (h : Parts s ps k) (m : Nat) (u : Text) (hs : tag? (c :: s) = none) :
    tag? (c :: (ps.flatMap Piece.escape ++ (slashes m ++ '[' :: u))) = none := by
  by_cases hopening : c = '['
  · obtain ⟨w, i, j, hsplit, hescape⟩ := h.upToOpening_escape m u
    rw [hopening, ← Option.not_isSome_iff_eq_none, isSome_tag?_opening] at hs ⊢
    rwa [hescape, closes_append_slashes, ← closes_append_slashes w i, ← hsplit]
  · simp [tag?, hopening]

/-- The pieces of an escaped text are those of the text, but with an odd number of backslashes
before each tag-like one. -/
theorem Parts.pieces_escape (h : Parts s ps k) (m : Nat) (u : Text) :
    pieces (ps.flatMap Piece.escape ++ (slashes m ++ '[' :: u)) =
      ps.map Piece.raise ++ pieces (slashes m ++ '[' :: u) := by
  induction h with
  | finish k => rfl
  | tag n opens more ih =>
    rw [List.flatMap_cons, Piece.escape, List.append_assoc, List.append_assoc,
      pieces_tag _ opens, ih, List.map_cons, Piece.raise, List.cons_append]
  | @plain n c rest ps k hc ht more ih =>
    rw [flatMap_escape_run, List.append_assoc, List.cons_append,
      pieces_plain n hc (more.tag?_escape m u ht), ih]
    simp [Piece.raise]

/-- How many backslashes a text ends in. -/
def trail (s : Text) : Nat := (s.reverse.takeWhile isSlash).length

lemma trail_append_slashes (ht : t.getLast? ≠ some slash) (k : Nat) :
    trail (t ++ slashes k) = k := by
  have hu : ∀ c ∈ t.reverse.head?, c ≠ slash := by
    rintro c hc rfl
    exact ht (List.head?_reverse ▸ hc)
  have hreverse : (t ++ slashes k).reverse = slashes k ++ t.reverse := by simp [slashes]
  rw [trail, hreverse, (drop_run k hu).1]

lemma getLast?_append_ne (hs : s.getLast? ≠ some slash) (ht : t.getLast? ≠ some slash) :
    (s ++ t).getLast? ≠ some slash := by
  rw [List.getLast?_append]
  cases h : t.getLast? with
  | none => exact hs
  | some c => simpa [h] using ht

lemma IsTag.getLast?_ne (h : IsTag piece) (n : Nat) :
    (slashes n ++ piece).getLast? ≠ some slash := by
  cases h with
  | @mk c body starts inside =>
    have hlast : (slashes n ++ '[' :: c :: body ++ [']']).getLast? = some ']' :=
      List.getLast?_concat
    rw [List.append_assoc, List.cons_append, List.cons_append] at hlast
    rw [hlast]
    decide

/-- Neither a text nor what escaping makes of it goes on in front of its last backslashes with
another one. -/
lemma Parts.getLast?_ne (h : Parts s ps k) :
    (∃ t, s = t ++ slashes k ∧ t.getLast? ≠ some slash) ∧
      (ps.flatMap Piece.escape).getLast? ≠ some slash := by
  induction h with
  | finish k => exact ⟨⟨[], rfl, nofun⟩, nofun⟩
  | tag n opens more ih =>
    obtain ⟨⟨t, rfl, ht⟩, he⟩ := ih
    refine ⟨⟨_, ?_, getLast?_append_ne (opens.getLast?_ne n) ht⟩, ?_⟩
    · simp
    · exact getLast?_append_ne (opens.getLast?_ne (2 * n + 1)) he
  | @plain n c rest ps k hc ht more ih =>
    obtain ⟨⟨t, rfl, hlast⟩, he⟩ := ih
    have hrun : (slashes n ++ [c]).getLast? ≠ some slash := by
      rw [List.getLast?_concat]
      simpa using hc
    refine ⟨⟨_, ?_, getLast?_append_ne hrun hlast⟩, ?_⟩
    · simp
    · rw [flatMap_escape_run, List.append_cons]
      exact getLast?_append_ne hrun he

lemma Parts.trail_eq (h : Parts s ps k) : trail s = k := by
  obtain ⟨⟨t, rfl, ht⟩, _⟩ := h.getLast?_ne
  exact trail_append_slashes ht k

/-- Backslashes at the end of a text are escaped only if there is just one. -/
lemma Parts.escape_eq {j : Nat} (h : Parts s ps (2 * j)) :
    escape s = ps.flatMap Piece.escape ++ slashes (2 * j) := by
  have hall : (pieces s).flatMap Piece.escape = ps.flatMap Piece.escape ++ slashes (2 * j) := by
    rw [h.pieces_eq, List.flatMap_append]
    simp [Piece.escape, slashes, List.flatMap_replicate]
  rw [escape, hall, if_neg]
  rintro ⟨hlast, hbefore⟩
  cases j with
  | zero => exact h.getLast?_ne.2 (by simpa [slashes] using hlast)
  | succ j =>
    have hsplit : slashes (2 * (j + 1)) = slashes (2 * j) ++ [slash] ++ [slash] := by
      rw [slashes, Nat.mul_succ, List.replicate_succ', List.replicate_succ']
      rfl
    rw [hsplit, ← List.append_assoc, List.dropLast_concat, ← List.append_assoc,
      List.getLast?_concat] at hbefore
    exact hbefore rfl

/-- A text without the backslashes that stand directly before a bracket that opens no tag. -/
def pared : Text → Text
  | [] => []
  | c :: rest =>
    if c = slash ∧ rest.head? = some '[' ∧ tag? rest = none then pared rest
    else c :: pared rest

lemma pared_cons (h : c = slash → rest.head? = some '[' → tag? rest ≠ none) :
    pared (c :: rest) = c :: pared rest := by
  rw [pared, if_neg]
  rintro ⟨hc, hopening, hnone⟩
  exact h hc hopening hnone

lemma pared_run (n : Nat) (hu : u.head? = some '[' → tag? u ≠ none) :
    pared (slashes n ++ u) = slashes n ++ pared u := by
  induction n with
  | zero => rfl
  | succ n ih =>
    rw [slashes, List.replicate_succ, List.cons_append, pared_cons, List.cons_append]
    · exact congrArg (slash :: ·) ih
    · intro _ hopening
      cases n with
      | zero => exact hu hopening
      | succ n => cases hopening

/-- Of the backslashes directly before a character one is left out if that opens a bracket, but no
tag. -/
lemma pared_plain (n : Nat) (hc : c ≠ slash) (ht : tag? (c :: rest) = none) :
    pared (slashes n ++ c :: rest) =
      slashes (if c = '[' then n - 1 else n) ++ c :: pared rest := by
  have hrest : pared (c :: rest) = c :: pared rest := pared_cons fun h => absurd h hc
  by_cases hopening : c = '['
  · rw [if_pos hopening]
    cases n with
    | zero => exact hrest
    | succ n =>
      have hsplit : slashes (n + 1) ++ c :: rest = slashes n ++ slash :: c :: rest := by
        rw [slashes, List.replicate_succ', List.append_assoc]
        rfl
      rw [hsplit, pared_run n (by rintro ⟨⟩), pared, if_pos ⟨rfl, congrArg some hopening, ht⟩,
        hrest, Nat.add_sub_cancel]
  · rw [if_neg hopening, pared_run n, hrest]
    exact fun h => absurd (Option.some.inj h) hopening

/-- Nothing is left out of a text up to a bracket that closes. -/
lemma pared_closing {w : Text} (hw : ∀ d ∈ w, d ≠ '[') (after : Text) :
    pared (w ++ ']' :: after) = w ++ ']' :: pared after := by
  induction w with
  | nil => exact pared_cons nofun
  | cons d w ih =>
    obtain ⟨_, hrest⟩ := List.forall_mem_cons.mp hw
    rw [List.cons_append, pared_cons, ih hrest, List.cons_append]
    intro _ hopening
    cases w with
    | nil => cases hopening
    | cons e w => exact absurd (Option.some.inj hopening) (hrest e List.mem_cons_self)

lemma pared_piece (h : IsTag piece) (after : Text) :
    pared (piece ++ after) = piece ++ pared after := by
  cases h with
  | @mk c body starts inside =>
    have hinside : ∀ d ∈ c :: body, d ≠ '[' :=
      List.forall_mem_cons.mpr ⟨(ne_of_startsTag starts).1, fun d hd => (inside d hd).1⟩
    have hclosing := pared_closing hinside after
    have hopening : pared ('[' :: (c :: body ++ ']' :: after)) =
        '[' :: pared (c :: body ++ ']' :: after) := pared_cons nofun
    rw [hclosing] at hopening
    simpa using hopening

lemma shown_char (c : Char) (ps : List Piece) : shown (.char c :: ps) =
    if c = slash ∧ ps.head? = some (.char '[') then shown ps else c :: shown ps := by
  cases ps with
  | nil => simp [shown]
  | cons p ps =>
    cases p with
    | tag n piece => simp [shown]
    | char d =>
      by_cases h : c = slash ∧ d = '['
      · obtain ⟨rfl, rfl⟩ := h
        cases ps with
        | nil => simp [shown]
        | cons p ps => cases p <;> simp [shown, slash]
      · simp [shown, h]

lemma shown_run (n : Nat) (hp : ps.head? ≠ some (.char '[')) :
    shown (List.replicate n (.char slash) ++ ps) = slashes n ++ shown ps := by
  induction n with
  | zero => rfl
  | succ n ih =>
    rw [List.replicate_succ, List.cons_append, shown_char, if_neg, ih]
    · rfl
    · rintro ⟨_, hopening⟩
      cases n with
      | zero => exact hp hopening
      | succ n => cases hopening

lemma shown_plain (n : Nat) (hc : c ≠ slash) (ps : List Piece) :
    shown (List.replicate n (.char slash) ++ .char c :: ps) =
      slashes (if c = '[' then n - 1 else n) ++ c :: shown ps := by
  have hrest : shown (.char c :: ps) = c :: shown ps := by
    rw [shown_char, if_neg fun h => hc h.1]
  by_cases hopening : c = '['
  · rw [if_pos hopening]
    cases n with
    | zero => exact hrest
    | succ n =>
      rw [List.replicate_succ', List.append_assoc, List.singleton_append,
        shown_run n (by rintro ⟨⟩), shown_char, if_pos ⟨rfl, by rw [hopening]; rfl⟩, hrest,
        Nat.add_sub_cancel]
  · rw [if_neg hopening, shown_run n _, hrest]
    simpa using hopening

/-- Shown in its pieces, a text is as it is but for the backslashes that are left out. -/
theorem Parts.shown_raise (h : Parts s ps k) : ∃ t, pared s = t ++ slashes k ∧
    ∀ more, shown (ps.map Piece.raise ++ more) = t ++ shown more := by
  induction h with
  | finish k =>
    have hslashes : pared (slashes k) = slashes k := by
      simpa [pared] using pared_run (u := []) k nofun
    exact ⟨[], hslashes, fun more => rfl⟩
  | @tag n piece after ps k opens more ih =>
    obtain ⟨t, hpared, hshown⟩ := ih
    refine ⟨slashes n ++ (piece ++ t), ?_, ?_⟩
    · have hsome : tag? (piece ++ after) = some (piece, after) :=
        tag?_eq_some_iff.mpr ⟨opens, rfl⟩
      rw [pared_run n (fun _ => by simp [hsome]), pared_piece opens, hpared]
      simp
    · intro more
      have hhalf : (2 * n + 1) / 2 = n ∧ (2 * n + 1) % 2 = 1 := by omega
      rw [List.map_cons, Piece.raise, List.cons_append, shown, hhalf.1, hhalf.2, if_pos rfl, hshown]
      simp
  | @plain n c rest ps k hc ht more ih =>
    obtain ⟨t, hpared, hshown⟩ := ih
    refine ⟨slashes (if c = '[' then n - 1 else n) ++ c :: t, ?_, ?_⟩
    · rw [pared_plain n hc ht, hpared]
      simp
    · intro more
      have hplain := shown_plain n hc (ps.map Piece.raise ++ more)
      rw [hshown] at hplain
      simpa [Piece.raise] using hplain

lemma pared_sublist (s : Text) : (pared s).Sublist s := by
  induction s with
  | nil => exact .slnil
  | cons c rest ih =>
    rw [pared]
    split
    · exact ih.cons c
    · exact ih.cons_cons c

/-- What tags around an escaped text leave of it: of the backslashes that it ends in, half. -/
def faded (s : Text) : Text := (pared s).take ((pared s).length - trail s / 2)

lemma faded_sublist (s : Text) : (faded s).Sublist s :=
  (List.take_sublist _ _).trans (pared_sublist s)

/-- The closing tag is shown if an odd number of backslashes stands before it, so they are to be
even. -/
theorem render_styled {style : String} (hopen : IsTag ("[" ++ style ++ "]").toList)
    (hclose : IsTag ("[/" ++ style ++ "]").toList) (heven : trail s % 2 = 0)
    (hs : ∀ c ∈ s, isSilent c = false) : render (styled style s) = faded s := by
  obtain ⟨ps, k, h⟩ := exists_parts s
  -- The backslashes at the end come to stand directly before the closing tag.
  obtain ⟨j, rfl⟩ : ∃ j, k = 2 * j := ⟨k / 2, by rw [h.trail_eq] at heven; omega⟩
  obtain ⟨t, hpared, hshown⟩ := h.shown_raise
  obtain ⟨u, hu⟩ := hclose.head
  have hfaded : faded s = t ++ slashes j := by
    have hslashes : slashes (2 * j) = slashes j ++ slashes j := by
      rw [slashes, slashes, List.replicate_append_replicate, Nat.two_mul]
    rw [faded, hpared, h.trail_eq, hslashes, ← List.append_assoc]
    apply List.take_left'
    simp [slashes]
    omega
  have hpieces : pieces (styled style s) =
      .tag 0 ("[" ++ style ++ "]").toList ::
        (ps.map Piece.raise ++ [.tag (2 * j) ("[/" ++ style ++ "]").toList]) := by
    have hlast := pieces_tag (2 * j) hclose []
    have hall := pieces_tag 0 hopen (escape s ++ ("[/" ++ style ++ "]").toList)
    rw [List.append_nil, hu, pieces_nil] at hlast
    rw [h.escape_eq, List.append_assoc, hu, h.pieces_escape, hlast] at hall
    rw [styled, h.escape_eq, hu, List.append_assoc, List.append_assoc]
    exact hall
  have hend : shown [.tag (2 * j) ("[/" ++ style ++ "]").toList] = slashes j := by
    have hhalf : 2 * j / 2 = j ∧ 2 * j % 2 ≠ 1 := by omega
    rw [shown, hhalf.1, if_neg hhalf.2, shown, List.append_nil, List.append_nil]
  have hrender : shown (pieces (styled style s)) = faded s := by
    rw [hpieces, shown, hshown, hend, hfaded]
    rfl
  rw [render, hrender, List.filter_eq_self]
  intro c hc
  simpa using hs c ((faded_sublist s).subset hc)

/-- Every bracket directly after a backslash opens a tag. -/
def Opens (s : Text) : Prop :=
  ∀ before rest, s = before ++ slash :: '[' :: rest → (tag? ('[' :: rest)).isSome = true

/-- A text that is shown as it is between tags. -/
structure Verbatim (s : Text) : Prop where
  opens : Opens s
  ends : s.getLast? ≠ some slash

lemma opens_cons : Opens (c :: s) ↔
    (c = slash → s.head? = some '[' → tag? s ≠ none) ∧ Opens s := by
  constructor
  · intro h
    constructor
    · rintro rfl hopening
      obtain ⟨rest, rfl⟩ := List.head?_eq_some_iff.mp hopening
      exact Option.isSome_iff_ne_none.mp (h [] rest rfl)
    · rintro before rest rfl
      exact h (c :: before) rest rfl
  · rintro ⟨hc, hs⟩ before rest h
    cases before with
    | nil =>
      obtain ⟨rfl, rfl⟩ := List.cons.inj h
      exact Option.isSome_iff_ne_none.mpr (hc rfl rfl)
    | cons d before => exact hs before rest (List.cons.inj h).2

theorem pared_eq_self_iff : pared s = s ↔ Opens s := by
  induction s with
  | nil => simp [pared, Opens]
  | cons c rest ih =>
    rw [opens_cons, pared]
    split
    · rename_i h
      refine ⟨fun hpared => ?_, fun hopens => absurd h.2.2 (hopens.1 h.1 h.2.1)⟩
      have hlength := (pared_sublist rest).length_le
      rw [hpared, List.length_cons] at hlength
      omega
    · rename_i h
      rw [List.cons.injEq, ih]
      exact ⟨fun hopens => ⟨fun hc hopening hnone => h ⟨hc, hopening, hnone⟩, hopens.2⟩,
        fun hopens => ⟨rfl, hopens.2⟩⟩

lemma trail_eq_zero_iff : trail s = 0 ↔ s.getLast? ≠ some slash := by
  rw [List.getLast?_eq_head?_reverse, trail]
  cases s.reverse with
  | nil => simp
  | cons c w =>
    by_cases hc : c = slash
    · simp [isSlash, hc]
    · simp [isSlash, hc]

theorem faded_eq_self_iff (heven : trail s % 2 = 0) : faded s = s ↔ Verbatim s := by
  have htrail : trail s ≤ s.length := by
    simpa [trail] using (List.takeWhile_sublist (l := s.reverse) isSlash).length_le
  have hlength := (pared_sublist s).length_le
  constructor
  · intro h
    have hfaded := congrArg List.length h
    rw [faded, List.length_take] at hfaded
    have hpared : pared s = s := (pared_sublist s).eq_of_length (by omega)
    exact ⟨pared_eq_self_iff.mp hpared, trail_eq_zero_iff.mp (by omega)⟩
  · rintro ⟨hopens, hends⟩
    rw [faded, trail_eq_zero_iff.mpr hends, pared_eq_self_iff.mpr hopens]
    exact List.take_length

lemma opens_of_not_mem (h : slash ∉ s) : Opens s := by
  rintro before rest rfl
  simp at h

lemma Opens.append (hs : Opens s) (ht : Opens t)
    (hseam : s.getLast? ≠ some slash ∨ t.head? ≠ some '[') : Opens (s ++ t) := by
  intro before rest h
  obtain ⟨w, rfl, rfl⟩ | ⟨w, rfl, hw⟩ := List.append_eq_append_iff.mp h
  · exact ht w rest rfl
  · match w, hw with
    | [], hw => exact ht [] rest hw.symm
    | [c], hw =>
      obtain ⟨rfl, rfl⟩ := List.cons.inj hw
      rw [List.getLast?_concat] at hseam
      simp at hseam
    | c :: d :: w, hw =>
      obtain ⟨rfl, hmore⟩ := List.cons.inj hw
      obtain ⟨rfl, rfl⟩ := List.cons.inj hmore
      obtain ⟨⟨piece, after⟩, hsome⟩ := Option.isSome_iff_exists.mp (hs before w rfl)
      obtain ⟨opens, hsplit⟩ := tag?_eq_some_iff.mp hsome
      have hwhole : '[' :: (w ++ t) = piece ++ (after ++ t) := by
        rw [← List.append_assoc, ← hsplit, List.cons_append]
      exact Option.isSome_iff_exists.mpr ⟨_, tag?_eq_some_iff.mpr ⟨opens, hwhole⟩⟩

end Clearance.Display.Markup
