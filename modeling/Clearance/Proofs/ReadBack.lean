import Clearance.Proofs.Expressible

/-! Labels that are written by themselves and read back. A badly escaped one is cut short where its
escapes go wrong, and the closing quote, which is still to come then, brings another label. Only a
last backslash without a partner leaves a single label, for it pairs with the closing quote. -/
namespace Clearance

namespace Token

lemma Taken.exists_label {t : Token} {w rest : Text} (h : Taken t w rest) (hq : '"' ∈ w) :
    ∃ l, t = .label l := by
  cases h with
  | bare _ _ _ => exact ⟨_, rfl⟩
  | quoted _ _ => exact ⟨_, rfl⟩
  | _ => simp at hq

end Token

/-- A quote is read with some label, if reading comes to the end of the text. -/
lemma Cursor.Laid.exists_label {c d : Cursor} {ps : List Placed} (h : Laid c ps d)
    (hd : d.rest = []) (hq : '"' ∈ c.rest) : ∃ p ∈ ps, ∃ l, p.token = .label l := by
  have hgap : ∀ gap : Text, gap.Spacing → '"' ∉ gap := fun _ hg hm => absurd (hg _ hm) (by decide)
  induction h with
  | finish hg => exact absurd hq (hgap _ hg)
  | stray _ _ => contradiction
  | token hg ht _ ih =>
    obtain hm | hm := List.mem_append.mp hq
    · exact absurd hm (hgap _ hg)
    · obtain hw | hrest := List.mem_append.mp hm
      · exact ⟨_, List.mem_cons_self, ht.exists_label hw⟩
      · obtain ⟨p, hp, hl⟩ := ih hd hrest
        exact ⟨p, List.mem_cons_of_mem _ hp, hl⟩

namespace Token

lemma exists_label_mem_list {s : Text} (hs : ∀ t ∈ list s, t.isLast = false) (hq : '"' ∈ s) :
    ∃ l, .label l ∈ list s := by
  have hlaid := (Cursor.start s).laid_drain
  have hend := hlaid.rest_eq_nil fun p hp => hs p.token (List.mem_map_of_mem hp)
  obtain ⟨p, hp, l, hl⟩ := hlaid.exists_label hend hq
  exact ⟨l, List.mem_map.mpr ⟨p, hp, hl⟩⟩

end Token

namespace Label
variable {l : Label}

lemma render_of_not_wellEscaped (h : wellEscaped l = false) : l.render = '"' :: l ++ ['"'] := by
  rw [render, if_neg]
  rintro ⟨_, hall⟩
  rw [wellEscaped_of_identifiers (List.all_eq_true.mp hall)] at h
  contradiction

/-- The closing quote closes a well escaped label, so it is no part of one. -/
lemma not_wellEscaped_of_quote (h : wellEscaped (l ++ ['"']) = true) : wellEscaped l = false := by
  cases hl : wellEscaped l with
  | false => rfl
  | true =>
    rw [wellEscaped_append hl] at h
    contradiction

lemma list_render (h : wellEscaped l = true) : Token.list l.render = [.label l] :=
  (Token.Spells.token (spelled_render h)).list_eq

/-- A last backslash pairs with the closing quote, and the end of the text ends the label. -/
lemma list_render_of_quote (h : wellEscaped (l ++ ['"']) = true) :
    Token.list l.render = [.label (l ++ ['"'])] := by
  have htaken : Token.Taken (.label (l ++ ['"'])) ('"' :: (l ++ ['"']) ++ []) [] :=
    .quoted h .finish
  rw [render_of_not_wellEscaped (not_wellEscaped_of_quote h)]
  simpa using Token.list_taken htaken

/-- Other badly escaped labels end where the first quote stands alone or the first backslash has no
partner, with the closing quote still ahead. -/
lemma exists_list_render (hl : wellEscaped l = false) (hquote : wellEscaped (l ++ ['"']) = false) :
    ∃ k rest, Token.list l.render = .label k :: Token.list (rest ++ ['"']) := by
  obtain ⟨k, hk, ending, rest, rfl, hends⟩ : ∃ k, wellEscaped k = true ∧ ∃ ending rest,
      l = k ++ (ending ++ rest) ∧ Token.Ends ending rest := ⟨_, Token.exists_ends l⟩
  have hbad := hl
  rw [wellEscaped_append hk] at hbad
  rw [List.append_assoc, wellEscaped_append hk] at hquote
  have hahead : Token.Ends ending (rest ++ ['"']) := by
    cases hends with
    | quote => exact .quote
    | backslash unpaired =>
      -- at the very end it would pair with the closing quote
      cases rest with
      | nil => contradiction
      | cons c rest => exact .backslash unpaired
    | finish => contradiction
  have htaken : Token.list ('"' :: k ++ ending ++ (rest ++ ['"'])) =
      .label k :: Token.list (rest ++ ['"']) := Token.list_taken (.quoted hk hahead)
  refine ⟨k, rest, ?_⟩
  rw [← htaken, render_of_not_wellEscaped hl]
  simp

end Label

namespace Expr
variable {source : Text} {l k : Label}

/-- A single leaf is the only label of its text. -/
lemma labels_of_parse_leaf (h : Expr.parse source = .ok (.leaf k)) :
    (Token.list source).filterMap Token.label? = [k] ∧
      ∀ t ∈ Token.list source, t.isLast = false := by
  obtain ⟨f, hf, ht⟩ := parse_eq_ok_iff.mp h
  rw [← hf, Formula.filterMap_tokens]
  exact ⟨List.perm_singleton.mp (Formula.leaves_of_tree? ht).symm,
    fun t => Formula.isLast_of_mem_tokens⟩

/-- With a closing quote ahead, the first label is not the only one. -/
lemma not_parse_leaf_of_list {rest : Text}
    (h : Token.list source = .label l :: Token.list (rest ++ ['"'])) :
    Expr.parse source ≠ .ok (.leaf k) := by
  intro hparse
  obtain ⟨hlabels, hlast⟩ := labels_of_parse_leaf hparse
  rw [h] at hlabels hlast
  obtain ⟨m, hm⟩ := Token.exists_label_mem_list (List.forall_mem_cons.mp hlast).2 (by simp)
  have hnone : (Token.list (rest ++ ['"'])).filterMap Token.label? = [] :=
    (List.cons.inj hlabels).2
  have hmem : m ∈ (Token.list (rest ++ ['"'])).filterMap Token.label? :=
    List.mem_filterMap.mpr ⟨_, hm, rfl⟩
  rw [hnone] at hmem
  contradiction

/-- A label by itself is read back as a single label only if that is the label, or the label with
the closing quote. -/
theorem parse_render_eq_leaf_iff : Expr.parse l.render = .ok (.leaf k) ↔
    Label.wellEscaped k = true ∧ (k = l ∨ k = l ++ ['"']) := by
  constructor
  · intro h
    obtain ⟨hlabels, _⟩ := labels_of_parse_leaf h
    refine ⟨wellEscaped_of_parse h k (by simp [Tree.leaves]), ?_⟩
    cases hl : Label.wellEscaped l with
    | true =>
      rw [Label.list_render hl] at hlabels
      exact .inl (List.cons.inj hlabels).1.symm
    | false =>
      cases hquote : Label.wellEscaped (l ++ ['"']) with
      | true =>
        rw [Label.list_render_of_quote hquote] at hlabels
        exact .inr (List.cons.inj hlabels).1.symm
      | false =>
        obtain ⟨m, rest, hlist⟩ := Label.exists_list_render hl hquote
        exact absurd h (not_parse_leaf_of_list hlist)
  · rintro ⟨hk, rfl | rfl⟩
    · exact parse_of_label (Label.list_render hk)
    · exact parse_of_label (Label.list_render_of_quote hk)

/-- A label that is written by itself comes back if and only if it is well escaped. The text of any
other label is refused, or read as a tree in which no leaf asks for it; that is a single leaf only
if the label with the closing quote is well escaped, and then the leaf asks for this. -/
theorem parse_render_leaf (l : Label) :
    Draft.render (Expr.draft (.leaf l)) = .ok l.render ∧
      (Expr.parse l.render = .ok (.leaf l) ↔ Label.wellEscaped l = true) ∧
      (Label.wellEscaped l = false ↔ (∃ r, Expr.parse l.render = .error r) ∨
        ∃ e, Expr.parse l.render = .ok e ∧ l ∉ e.leaves) ∧
      ∀ k, Expr.parse l.render = .ok (.leaf k) ↔
        Label.wellEscaped k = true ∧ (k = l ∨ k = l ++ ['"']) := by
  have hback : Expr.parse l.render = .ok (.leaf l) ↔ Label.wellEscaped l = true := by
    rw [parse_render_eq_leaf_iff]
    exact and_iff_left (.inl rfl)
  refine ⟨Draft.render_draft (.leaf l), hback, ?_, fun _ => parse_render_eq_leaf_iff⟩
  constructor
  · intro hl
    cases hparse : Expr.parse l.render with
    | error r => exact .inl ⟨r, rfl⟩
    | ok e =>
      refine .inr ⟨e, rfl, fun hm => ?_⟩
      rw [wellEscaped_of_parse hparse l hm] at hl
      contradiction
  · intro h
    rw [← Bool.not_eq_true, ← hback]
    intro hparse
    obtain ⟨r, hr⟩ | ⟨e, he, hm⟩ := h
    · rw [hparse] at hr
      contradiction
    · rw [hparse] at he
      obtain rfl := Except.ok.inj he
      exact hm (by simp [Tree.leaves])

example : Expr.parse (Label.render "\" & \"".toList) =
    .ok (.group .and (.leaf []) (.leaf []) []) := by cbv

example : Expr.parse (Label.render ['\\']) = .ok (.leaf ['\\', '"']) := by cbv

end Expr

end Clearance
