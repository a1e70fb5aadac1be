import Clearance.Proofs.Expressible

/-! Texts put together from others in parentheses: their trees become the children of one group. -/
namespace Clearance

/-- The text ends within quotes: its last token is a label that takes up all of the text after an
opening quote. -/
def Text.EndsInQuotes (source : Text) : Prop :=
  ∃ before l, source = before ++ '"' :: l ∧
    (Token.stream source).getLast? = some ⟨.label l, before.length⟩

lemma Text.endsInQuotes_iff {source : Text} : source.EndsInQuotes ↔
    ∃ p ∈ (Token.stream source).getLast?,
      p.token = .label p.token.text ∧ source.drop p.position = '"' :: p.token.text := by
  constructor
  · rintro ⟨before, l, rfl, h⟩
    exact ⟨_, h, rfl, List.drop_left⟩
  · rintro ⟨⟨t, n⟩, hp, ht, hd⟩
    have hn : n < source.length := by
      by_contra hle
      rw [List.drop_eq_nil_of_le (Nat.le_of_not_lt hle)] at hd
      contradiction
    refine ⟨source.take n, t.text, ?_, ?_⟩
    · rw [← hd, List.take_append_drop]
    · rw [hp, List.length_take_of_le hn.le, ← ht]

namespace Cursor

/-- A closing parenthesis ends a text with all of its tokens, unless it comes within quotes. -/
theorem Laid.append_closeParen {c d e : Cursor} {ps qs : List Placed} {more : Text}
    (h : Laid c ps d) (hd : d.rest = []) (hq : ∀ before l, c.rest = before ++ '"' :: l →
      ps.getLast? ≠ some ⟨.label l, c.position + before.length⟩)
    (hmore : Laid ⟨d.position + 1, more⟩ qs e) :
    Laid ⟨c.position, c.rest ++ ')' :: more⟩ (ps ++ ⟨.closeParen, d.position⟩ :: qs) e := by
  induction h with
  | finish hg => exact .token (w := [')']) hg .closeParen hmore
  | stray _ _ => contradiction
  | @token n gap t w rest ps d hg ht tail ih =>
    -- a label up to the end of the text would have been the last token
    have hlast : ∀ l, w = '"' :: l → t = .label l → rest ≠ [] := by
      rintro l rfl rfl rfl
      cases tail.drain_eq.symm.trans (Laid.finish Text.spacing_nil).drain_eq
      exact hq gap l (by simp) rfl
    have hrest := ih hd (by
      intro before l hb hl
      simp only at hb hl
      refine hq (gap ++ w ++ before) l (by simp [hb]) ?_
      rw [List.getLast?_cons, hl]
      simp [Nat.add_assoc]) hmore
    have hall := Laid.token hg (ht.append_closeParen hlast more) hrest
    simpa using hall

end Cursor

namespace Token

/-- Reading starts anew after the parenthesis. -/
lemma list_append_closeParen {s : Text} (hs : ∀ t ∈ list s, t.isLast = false)
    (hq : ¬ s.EndsInQuotes) (more : Text) :
    list (s ++ ')' :: more) = list s ++ .closeParen :: list more := by
  have h := (Cursor.start s).laid_drain
  have hd := h.rest_eq_nil fun p hp => hs p.token (List.mem_map_of_mem hp)
  have hmore := Cursor.laid_drain ⟨(Cursor.start s).drain.2.position + 1, more⟩
  have hall := h.append_closeParen hd (by
    intro before l hb hl
    refine hq ⟨before, l, hb, ?_⟩
    rw [stream, hl]
    simp [Cursor.start]) hmore
  have hlist := congrArg (fun r => r.1.map Placed.token) hall.drain_eq
  simp only [List.map_append, List.map_cons, Cursor.map_token_drain] at hlist
  exact hlist

lemma Spells.append_spacing {gap s : Text} {ts : List Token} (hg : gap.Spacing)
    (h : Spells s ts) : Spells (gap ++ s) ts := by
  intro rest hr
  rw [List.append_assoc, list_append_spacing hg, h rest hr]

/-- A text in parentheses is a scope of the text around it. -/
lemma Spells.enclosed {source : Text} {f : Formula} (hf : f.tokens = list source)
    (hq : ¬ source.EndsInQuotes) :
    Spells ('(' :: source ++ [')']) (Formula.scope f .nil).tokens := by
  intro rest _
  have hs : ∀ t ∈ list source, t.isLast = false :=
    fun t ht => Formula.isLast_of_mem_tokens (hf ▸ ht)
  have hopen := list_spelled .openParen (apart_of_not_mem (c := '(') (by simp) (by decide)
    (source ++ ')' :: rest))
  rw [list_append_closeParen hs hq] at hopen
  simpa [Formula.tokens, hf] using hopen

end Token

/-- A text in parentheses, after an operator with some spacing around it. -/
structure Link where
  before : Text
  after : Text
  source : Text

namespace Link

def text (op : Connective) (k : Link) : Text :=
  k.before ++ op.mark :: (k.after ++ ('(' :: k.source ++ [')']))

/-- What a link contributes to a text. -/
structure Joins (k : Link) (e : Expr) : Prop where
  before : k.before.Spacing
  after : k.after.Spacing
  accepted : Expr.parse k.source = .ok e
  ended : ¬ k.source.EndsInQuotes

end Link

/-- Texts in parentheses with operators between them. A single text has no operator. -/
def Text.enclosed (op : Connective) (first : Text) (links : List Link) : Text :=
  '(' :: first ++ [')'] ++ links.flatMap (Link.text op)

/-- A single tree as it is, several trees as the children of a group. -/
def Tree.bundle {α : Type} (op : Connective) (first : Tree α) : List (Tree α) → Tree α
  | [] => first
  | second :: rest => .group op first second rest

namespace Token

lemma bounds_links (op : Connective) {links : List Link} {es : List Expr}
    (h : List.Forall₂ Link.Joins links es) : Bounds (links.flatMap (Link.text op)) := by
  cases h with
  | nil => simp [Bounds]
  | @cons k _ _ _ hk _ =>
    obtain ⟨_, _, hmark⟩ := op.spelled_token
    rw [List.flatMap_cons, Link.text, List.append_assoc]
    by_cases hb : k.before = []
    · rw [hb]
      rintro _ ⟨⟩
      exact hmark
    · exact hk.before.bounds hb _

/-- Links spell scopes in parentheses, each after an operator. -/
lemma Spells.links (op : Connective) {links : List Link} {es : List Expr}
    (h : List.Forall₂ Link.Joins links es) :
    ∃ fs, List.Forall₂ (fun f e => Formula.tree? f = some e) fs es ∧
      Spells (links.flatMap (Link.text op)) (Formula.chain op fs).tokens := by
  induction h with
  | nil => exact ⟨[], .nil, Spells.nil⟩
  | @cons k e links es hk hrest ih =>
    obtain ⟨f, hf, ht⟩ := Expr.parse_eq_ok_iff.mp hk.accepted
    obtain ⟨fs, hfs, hs⟩ := ih
    obtain ⟨_, hspelled, hmark⟩ := op.spelled_token
    have hitem := (Spells.enclosed hf hk.ended).append_spacing hk.after
    have hlink := (hitem.cons_mark hspelled hmark).append_spacing hk.before
    refine ⟨f :: fs, .cons ht hfs, ?_⟩
    simpa [Formula.chain, Formula.tokens, Link.text] using hlink.append (bounds_links op hrest) hs

end Token

namespace Formula

lemma tree?_scope {f : Formula} {t : Expr} (h : f.tree? = some t) :
    (scope f .nil).tree? = some t := by
  refine tree?_eq_some_iff.mpr ⟨[t], subtrees?_scope_eq_some_iff.mpr ⟨t, [], h, rfl, rfl⟩, ?_⟩
  rfl

/-- In parentheses of their own, trees are bundled as they are written. -/
lemma tree?_bundle (op : Connective) {f : Formula} {fs : List Formula} {t : Expr} {es : List Expr}
    (hf : f.tree? = some t) (hfs : List.Forall₂ (fun f e => f.tree? = some e) fs es) :
    (scope f (chain op fs)).tree? = some (Tree.bundle op t es) := by
  cases hfs with
  | nil => exact tree?_scope hf
  | cons hsecond hrest => exact tree?_scope_chain hf hsecond hrest

end Formula

/-- Accepted texts in parentheses, with one operator between them and any spacing around it, make a
text whose tree has their trees for its children, in that order. A text that ends within quotes
would take up the parenthesis after it. -/
theorem Expr.parse_enclosed (op : Connective) {first : Text} {t : Expr} {links : List Link}
    {es : List Expr} (hfirst : Expr.parse first = .ok t) (hended : ¬ first.EndsInQuotes)
    (hlinks : List.Forall₂ Link.Joins links es) :
    Expr.parse (Text.enclosed op first links) = .ok (Tree.bundle op t es) := by
  obtain ⟨f, hf, ht⟩ := parse_eq_ok_iff.mp hfirst
  obtain ⟨fs, hfs, hs⟩ := Token.Spells.links op hlinks
  have hall := (Token.Spells.enclosed hf hended).append (Token.bounds_links op hlinks) hs
  refine parse_eq_ok_iff.mpr ⟨_, ?_, Formula.tree?_bundle op ht hfs⟩
  rw [Text.enclosed, hall.list_eq]
  simp [Formula.tokens]

/-- A label that is cut off by a backslash at the end of its text, several items, and a quoted
parenthesis. -/
theorem Expr.parse_enclosed_cut :
    Expr.parse "\"a\\".toList = .ok (.leaf ['a']) ∧
      Expr.parse "(\"a\\)\t& \n(c-d | b)&(\"x)\")".toList = .ok (.group .and (.leaf ['a'])
        (.group .or (.leaf ['c', '-', 'd']) (.leaf ['b']) []) [.leaf ['x', ')']]) := by
  have hparse : Expr.parse "\"a\\".toList = .ok (.leaf ['a']) ∧
      Expr.parse "c-d | b".toList = .ok (.group .or (.leaf ['c', '-', 'd']) (.leaf ['b']) []) ∧
      Expr.parse "\"x)\"".toList = .ok (.leaf ['x', ')']) := by
    refine ⟨?_, ?_, ?_⟩ <;> cbv
  have hstream : Token.stream "\"a\\".toList = [⟨.label ['a'], 0⟩] ∧
      Token.stream "c-d | b".toList =
        [⟨.label ['c', '-', 'd'], 0⟩, ⟨.or, 4⟩, ⟨.label ['b'], 6⟩] ∧
      Token.stream "\"x)\"".toList = [⟨.label ['x', ')'], 0⟩] := by
    clear hparse
    refine ⟨?_, ?_, ?_⟩ <;> cbv
  obtain ⟨hcut, hbare, hquoted⟩ := hstream
  have hended : ¬ Text.EndsInQuotes "\"a\\".toList ∧ ¬ Text.EndsInQuotes "c-d | b".toList ∧
      ¬ Text.EndsInQuotes "\"x)\"".toList := by
    rw [Text.endsInQuotes_iff, Text.endsInQuotes_iff, Text.endsInQuotes_iff, hcut, hbare, hquoted]
    decide
  have hspacing : ∀ gap ∈ [['\t'], [' ', '\n'], []], Text.Spacing gap := by
    simp [Text.Spacing, Alphabet.isSpacing]
  have hlinks : List.Forall₂ Link.Joins
      [⟨['\t'], [' ', '\n'], "c-d | b".toList⟩, ⟨[], [], "\"x)\"".toList⟩]
      [.group .or (.leaf ['c', '-', 'd']) (.leaf ['b']) [], .leaf ['x', ')']] :=
    .cons ⟨hspacing _ (by simp), hspacing _ (by simp), hparse.2.1, hended.2.1⟩
      (.cons ⟨hspacing _ (by simp), hspacing _ (by simp), hparse.2.2, hended.2.2⟩ .nil)
  exact ⟨hparse.1, parse_enclosed .and hparse.1 hended.1 hlinks⟩

end Clearance
