import Clearance.Proofs.BracketTree
import Clearance.Proofs.Writing
import Mathlib.Data.Set.List

/-! The trees that texts are parsed to: whatever the order of its children, a tree is written with
each child in parentheses of its own, which keep it in its place. -/
namespace Clearance

/-- A tree whose groups may have any number of children. -/
inductive Sketch
  | leaf (l : Label)
  | group (op : Connective) (children : List Sketch)

namespace Sketch

/-- Every group has two children at least. -/
inductive Grown : Sketch → Prop
  | leaf (l) : Grown (.leaf l)
  | group {op children} (enough : 2 ≤ children.length) (each : ∀ t ∈ children, Grown t) :
      Grown (.group op children)

/-- The label stands at some leaf. -/
inductive Asks (l : Label) : Sketch → Prop
  | leaf : Asks l (.leaf l)
  | group {op children t} (mem : t ∈ children) (below : Asks l t) : Asks l (.group op children)

end Sketch

namespace Expr

mutual
/-- The same groups and leaves. -/
def sketch : Expr → Sketch
  | .leaf l => .leaf l
  | .group op first second rest => .group op (sketch first :: sketch second :: sketches rest)

def sketches : List Expr → List Sketch
  | [] => []
  | e :: es => sketch e :: sketches es
end

@[simp] theorem sketches_eq (es : List Expr) : sketches es = es.map sketch := by
  induction es with
  | nil => rfl
  | cons e es ih => simp [sketches, ih]

@[simp] theorem sketch_leaf (l : Label) : sketch (.leaf l) = .leaf l := by simp [sketch]

@[simp] theorem sketch_group (op : Connective) (s t : Expr) (rest : List Expr) :
    sketch (.group op s t rest) = .group op ((s :: t :: rest).map sketch) := by
  simp [sketch]

lemma grown_sketch (e : Expr) : e.sketch.Grown := by
  induction e using Tree.induction with
  | leaf l =>
    rw [sketch_leaf]
    exact .leaf l
  | group op first second rest ih =>
    rw [sketch_group]
    refine .group (by simp) ?_
    intro t ht
    obtain ⟨e, he, rfl⟩ := List.mem_map.mp ht
    exact ih e he

/-- Trees that have enough children everywhere are expressions. -/
lemma exists_sketch {t : Sketch} (h : t.Grown) : ∃ e : Expr, e.sketch = t := by
  induction h with
  | leaf l => exact ⟨.leaf l, sketch_leaf l⟩
  | @group op children enough _ ih =>
    have hall : children ∈ Set.range (List.map sketch) := by
      rw [Set.range_list_map]
      exact ih
    obtain ⟨es, rfl⟩ := hall
    rw [List.length_map] at enough
    obtain ⟨first, second, rest, rfl⟩ := Tree.exists_of_two_le enough
    exact ⟨.group op first second rest, sketch_group op first second rest⟩

lemma asks_sketch_iff {e : Expr} {l : Label} : e.sketch.Asks l ↔ l ∈ e.leaves := by
  induction e using Tree.induction with
  | leaf k =>
    rw [sketch_leaf, Tree.leaves, List.mem_singleton]
    constructor
    · rintro ⟨⟩
      rfl
    · rintro rfl
      exact .leaf
  | group op first second rest ih =>
    rw [sketch_group, Tree.leaves_group, List.mem_flatMap]
    constructor
    · rintro (_ | ⟨hm, hb⟩)
      obtain ⟨e, he, rfl⟩ := List.mem_map.mp hm
      exact ⟨e, he, (ih e he).mp hb⟩
    · rintro ⟨e, he, hl⟩
      exact .group (List.mem_map_of_mem he) ((ih e he).mpr hl)

end Expr

namespace Formula

/-- Scopes in parentheses, each after an operator. -/
def chain (op : Connective) : List Formula → Formula
  | [] => .nil
  | f :: fs => .operator op (.scope f (chain op fs))

@[simp] lemma bare_chain (op : Connective) (fs : List Formula) : (chain op fs).bare = [] := by
  induction fs with
  | nil => rfl
  | cons f fs ih => exact ih

lemma operators_chain (op : Connective) (fs : List Formula) :
    (chain op fs).operators = fs.map fun _ => op := by
  induction fs with
  | nil => rfl
  | cons f fs ih => exact congrArg (op :: ·) ih

lemma subtrees?_chain (op : Connective) {fs : List Formula} {es : List Expr}
    (h : List.Forall₂ (fun f e => f.tree? = some e) fs es) : (chain op fs).subtrees? = some es := by
  induction h with
  | nil => rfl
  | cons hfirst _ ih =>
    exact subtrees?_scope_eq_some_iff.mpr ⟨_, _, hfirst, ih, rfl⟩

/-- Several scopes with an operator between them make a group of their trees, as written. -/
theorem tree?_scope_chain {op : Connective} {first second : Formula} {rest : List Formula}
    {s t : Expr} {es : List Expr} (hfirst : first.tree? = some s) (hsecond : second.tree? = some t)
    (hrest : List.Forall₂ (fun f e => f.tree? = some e) rest es) :
    (scope first (chain op (second :: rest))).tree? = some (.group op s t es) := by
  have hmore := subtrees?_chain op (.cons hsecond hrest)
  refine tree?_eq_some_iff.mpr
    ⟨_, subtrees?_scope_eq_some_iff.mpr ⟨s, t :: es, hfirst, hmore, rfl⟩, ?_⟩
  have hops : (scope first (chain op (second :: rest))).operators =
      op :: rest.map fun _ => op := operators_chain op (second :: rest)
  have hbare : (scope first (chain op (second :: rest))).bare = [] := bare_chain op _
  have hmixed : ¬ (.and ∈ op :: rest.map (fun _ => op) ∧ .or ∈ op :: rest.map fun _ => op) := by
    cases op <;> simp
  rw [hops, hbare, List.map_nil, List.append_nil]
  unfold assemble
  rw [if_neg hmixed]

end Formula

namespace Expr

mutual
/-- The brackets of an expression with every child in parentheses, labels too. -/
def bracketed : Expr → Formula
  | .leaf l => .label l .nil
  | .group op first second rest =>
    .scope (bracketed first) (.chain op (bracketed second :: bracketedAll rest))

def bracketedAll : List Expr → List Formula
  | [] => []
  | e :: es => bracketed e :: bracketedAll es
end

@[simp] theorem bracketedAll_eq (es : List Expr) : bracketedAll es = es.map bracketed := by
  induction es with
  | nil => rfl
  | cons e es ih => simp [bracketedAll, ih]

/-- In parentheses of its own, no child is moved. -/
theorem tree?_bracketed (e : Expr) : e.bracketed.tree? = some e := by
  induction e using Tree.induction with
  | leaf l =>
    rw [bracketed]
    rfl
  | group op first second rest ih =>
    rw [bracketed, bracketedAll_eq]
    apply Formula.tree?_scope_chain (ih first (by simp)) (ih second (by simp))
    apply List.forall₂_map_left_iff.mpr
    apply List.forall₂_same.mpr
    intro e he
    exact ih e (by simp [he])

/-- Every label of an accepted text can be written between quotes as it is. -/
theorem wellEscaped_of_parse {source : Text} {e : Expr} (h : Expr.parse source = .ok e) :
    e.WellEscaped := by
  obtain ⟨f, hf, ht⟩ := parse_eq_ok_iff.mp h
  intro l hl
  have hlabel : l ∈ f.labels := (Formula.leaves_of_tree? ht).mem_iff.mp hl
  have htoken := Formula.label_mem_tokens_iff.mpr hlabel
  rw [hf, Token.list] at htoken
  obtain ⟨p, hp, hlp⟩ := List.mem_map.mp htoken
  exact Cursor.wellEscaped_of_mem_drain hp hlp

/-- An expression with well escaped labels has a text. -/
theorem exists_parse_of_wellEscaped {e : Expr} (he : e.WellEscaped) :
    ∃ source, Expr.parse source = .ok e := by
  have htree := tree?_bracketed e
  have hlabels : ∀ l ∈ e.bracketed.labels, Label.wellEscaped l = true := by
    intro l hl
    exact he l ((Formula.leaves_of_tree? htree).mem_iff.mpr hl)
  have hlist := Token.list_flatMap_spelling (Formula.spelled_of_mem_tokens hlabels)
  exact ⟨_, parse_eq_ok_iff.mpr ⟨e.bracketed, hlist.symm, htree⟩⟩

/-- A tree is that of some text if and only if every group of it has two children at least and every
label of it is well escaped. -/
theorem exists_parse_sketch_iff (t : Sketch) :
    (∃ source e, Expr.parse source = .ok e ∧ e.sketch = t) ↔
      t.Grown ∧ ∀ l, t.Asks l → Label.wellEscaped l = true := by
  constructor
  · rintro ⟨source, e, h, rfl⟩
    refine ⟨grown_sketch e, ?_⟩
    intro l hl
    exact wellEscaped_of_parse h l (asks_sketch_iff.mp hl)
  · rintro ⟨hgrown, hlabels⟩
    obtain ⟨e, rfl⟩ := exists_sketch hgrown
    have he : e.WellEscaped := fun l hl => hlabels l (asks_sketch_iff.mpr hl)
    obtain ⟨source, h⟩ := exists_parse_of_wellEscaped he
    exact ⟨source, e, h, rfl⟩

end Expr

end Clearance
