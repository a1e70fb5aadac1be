import Clearance.Proofs.Formula
import Clearance.Proofs.Pieces
import Clearance.Proofs.Truth

/-! Expressions as they are written: the text by recursion over the tree, and its brackets. -/
namespace Clearance

namespace Expr

mutual
/-- The text of an expression among others: a group stands between parentheses. -/
def piece : Expr → Text
  | .leaf l => Label.render l
  | .group op first second rest =>
    '(' :: Text.join op.spelling (piece first :: piece second :: pieces rest) ++ [')']

def pieces : List Expr → List Text
  | [] => []
  | e :: es => piece e :: pieces es
end

@[simp] theorem pieces_eq (es : List Expr) : pieces es = es.map piece := by
  induction es with
  | nil => rfl
  | cons e es ih => simp [pieces, ih]

/-- The text of an expression by itself: a group has no parentheses around it. -/
def text : Expr → Text
  | .leaf l => Label.render l
  | .group op first second rest => Text.join op.spelling ((first :: second :: rest).map piece)

@[simp] theorem piece_leaf (l : Label) : piece (.leaf l) = Label.render l := by simp [piece]

@[simp] theorem piece_group (op : Connective) (s t : Expr) (rest : List Expr) :
    piece (.group op s t rest) =
      '(' :: Text.join op.spelling ((s :: t :: rest).map piece) ++ [')'] := by
  simp [piece]

end Expr

namespace Draft

/-- Children that are all written are written one after the other. -/
lemma mapM_piece_eq_ok {f : Expr → Text} {es : List Expr}
    (h : ∀ e ∈ es, piece e.draft = .ok (f e)) :
    (es.map Expr.draft).mapM piece = .ok (es.map f) := by
  induction es with
  | nil => rfl
  | cons e es ih =>
    obtain ⟨hfirst, hrest⟩ := List.forall_mem_cons.mp h
    rw [List.map_cons, List.mapM_cons, hfirst, ih hrest]
    rfl

lemma piece_draft (e : Expr) : piece e.draft = .ok e.piece := by
  induction e using Tree.induction with
  | leaf l => rw [Expr.draft_leaf, piece_label, Expr.piece_leaf]
  | group op first second rest ih =>
    rw [Expr.draft_group, piece_group, ← List.map_cons, ← List.map_cons, present_drafts,
      mapM_piece_eq_ok ih, Expr.piece_group]
    rfl

/-- An expression is never refused by the writer. -/
theorem render_draft (e : Expr) : render e.draft = .ok e.text := by
  cases e with
  | leaf l => simp [render, Expr.text]
  | group op first second rest =>
    rw [Expr.draft_group, render_group, ← List.map_cons, ← List.map_cons, present_drafts,
      mapM_piece_eq_ok fun e _ => piece_draft e]
    rfl

end Draft

@[simp] theorem Expr.render_eq_text (e : Expr) : e.render = e.text := by
  rw [Expr.render, Draft.render_draft]

lemma Label.spelled_render {l : Label} (h : wellEscaped l = true) :
    Token.Spelled (.label l) (Label.render l) := by
  unfold render
  split
  · next hb => exact .bare hb.1 (List.all_eq_true.mp hb.2)
  · exact .quoted h

def Connective.mark : Connective → Char
  | and => '&'
  | or => '|'

lemma Connective.spelled_token (op : Connective) : op.spelling = [' ', op.mark, ' '] ∧
    op.token.Spelled [op.mark] ∧ Alphabet.isIdentifier op.mark = false := by
  cases op with
  | and => exact ⟨rfl, .and, by decide⟩
  | or => exact ⟨rfl, .or, by decide⟩

lemma Text.join_cons (sep piece : Text) (pieces : List Text) :
    Text.join sep (piece :: pieces) = piece ++ pieces.flatMap fun p => sep ++ p := by
  induction pieces generalizing piece with
  | nil => simp
  | cons next pieces ih => simp [ih]

namespace Expr

mutual
/-- An expression as an item of a scope. -/
def item : Expr → Formula
  | .leaf l => .label l .nil
  | .group op first second rest =>
    .scope ((item first).append (.operator op ((item second).append (items op rest)))) .nil

/-- Further items, each after an operator. -/
def items (op : Connective) : List Expr → Formula
  | [] => .nil
  | e :: es => .operator op ((item e).append (items op es))
end

/-- The formula that the text of an expression spells. -/
def formula : Expr → Formula
  | .leaf l => .label l .nil
  | .group op first second rest => (item first).append (items op (second :: rest))

/-- Every label asked for is well escaped. -/
def WellEscaped (e : Expr) : Prop := ∀ l ∈ e.leaves, Label.wellEscaped l = true

lemma wellEscaped_group_iff {op : Connective} {s t : Expr} {rest : List Expr} :
    WellEscaped (.group op s t rest) ↔ ∀ e ∈ s :: t :: rest, WellEscaped e := by
  simp only [WellEscaped, Tree.leaves_group, List.mem_flatMap]
  grind

/-- Items and the operators between them. -/
lemma piecewise (op : Connective) (s : Expr) (es : List Expr) :
    Text.join op.spelling ((s :: es).map piece) =
      piece s ++ es.flatMap fun e => op.spelling ++ piece e := by
  rw [List.map_cons, Text.join_cons, List.flatMap_map]

end Expr

namespace Token

lemma Spells.operator (op : Connective) {s : Text} {ts : List Token} (h : Spells s ts) :
    Spells (op.spelling ++ s) (op.token :: ts) := by
  obtain ⟨hs, ht, hc⟩ := op.spelled_token
  rw [hs]
  exact ((h.cons_spacing rfl).cons_mark ht hc).cons_spacing rfl

lemma bounds_spelling (op : Connective) (s : Text) : Bounds (op.spelling ++ s) := by
  cases op <;> simp [Connective.spelling, Bounds] <;> decide

lemma bounds_items (op : Connective) (es : List Expr) :
    Bounds (es.flatMap fun e => op.spelling ++ e.piece) := by
  cases es with
  | nil => simp [Bounds]
  | cons e es => simpa using bounds_spelling op _

lemma Spells.items (op : Connective) {es : List Expr}
    (h : ∀ e ∈ es, Spells e.piece e.item.tokens) :
    Spells (es.flatMap fun e => op.spelling ++ e.piece) (Expr.items op es).tokens := by
  induction es with
  | nil => exact Spells.nil
  | cons e es ih =>
    obtain ⟨hfirst, hrest⟩ := List.forall_mem_cons.mp h
    have hmore := (hfirst.append (bounds_items op es) (ih hrest)).operator op
    simpa [Expr.items, Formula.tokens] using hmore

lemma Spells.group (op : Connective) {first : Expr} {es : List Expr}
    (h : ∀ e ∈ first :: es, Spells e.piece e.item.tokens) :
    Spells (Text.join op.spelling ((first :: es).map Expr.piece))
      (first.item.append (Expr.items op es)).tokens := by
  obtain ⟨hfirst, hrest⟩ := List.forall_mem_cons.mp h
  rw [Expr.piecewise, Formula.tokens_append]
  exact hfirst.append (bounds_items op es) (Spells.items op hrest)

/-- A well escaped expression among others spells itself as an item. -/
theorem Spells.piece {e : Expr} (he : e.WellEscaped) : Spells e.piece e.item.tokens := by
  induction e using Tree.induction with
  | leaf l =>
    have hl : Label.wellEscaped l = true := he l (by simp [Tree.leaves])
    simpa [Expr.item, Formula.tokens] using Spells.token (Label.spelled_render hl)
  | group op first second rest ih =>
    have hall : ∀ e ∈ first :: second :: rest, Spells (Expr.piece e) (Expr.item e).tokens :=
      fun e hm => ih e hm (Expr.wellEscaped_group_iff.mp he e hm)
    have hclose : Spells [')'] [.closeParen] := Spells.token .closeParen
    have hb : Bounds [')'] := by
      intro c hc
      obtain rfl := Option.mem_some_iff.mp hc
      decide
    have h := ((Spells.group op hall).append hb hclose).cons_mark .openParen (by decide)
    simpa [Expr.item, Expr.items, Formula.tokens] using h

end Token

/-- The text of a well escaped expression has the brackets of its formula. -/
theorem Expr.list_text {e : Expr} (he : e.WellEscaped) : Token.list e.text = e.formula.tokens := by
  cases e with
  | leaf l =>
    have h := Token.Spells.piece he
    rw [piece_leaf] at h
    rw [text, h.list_eq]
    simp [item, formula]
  | group op first second rest =>
    have hall : ∀ e ∈ first :: second :: rest, Token.Spells (piece e) (item e).tokens :=
      fun e hm => Token.Spells.piece (wellEscaped_group_iff.mp he e hm)
    rw [text, (Token.Spells.group op hall).list_eq, formula]

end Clearance
