import Clearance.Proofs.Gathering
import Clearance.Proofs.Writing

/-! Writing an expression and reading the text gives its canonical order, and an accepted text
comes back exactly when its tree is canonical. -/
namespace Clearance

namespace Scope
variable {α : Type}

/-- A tree joins the items of a scope: groups among the nodes, leaves among the labels. -/
def add (s : Scope α) : Tree α → Scope α
  | .leaf a => s.addLabel a
  | .group op first second rest => s.addNode (.group op first second rest)

def addAll (s : Scope α) (ts : List (Tree α)) : Scope α := ts.foldl add s

@[simp] theorem addAll_nil (s : Scope α) : s.addAll [] = s := rfl

@[simp] theorem addAll_cons (s : Scope α) (t : Tree α) (ts : List (Tree α)) :
    s.addAll (t :: ts) = (s.add t).addAll ts := rfl

lemma add_of_isGroup (s : Scope α) {t : Tree α} (h : t.isGroup = true) :
    s.add t = s.addNode t := by
  cases t with
  | leaf a => contradiction
  | group op first second rest => rfl

@[simp] theorem operator_add (s : Scope α) (t : Tree α) : (s.add t).operator = s.operator := by
  cases t <;> rfl

@[simp] theorem operator_addAll (s : Scope α) (ts : List (Tree α)) :
    (s.addAll ts).operator = s.operator := by
  induction ts generalizing s with
  | nil => rfl
  | cons t ts ih => rw [addAll_cons, ih, operator_add]

lemma nodes_addAll (s : Scope α) (ts : List (Tree α)) :
    (s.addAll ts).nodes = s.nodes ++ ts.filter Tree.isGroup := by
  induction ts generalizing s with
  | nil => simp
  | cons t ts ih =>
    rw [addAll_cons, ih]
    cases t <;> simp [add, addLabel, addNode, List.filter_cons]

lemma labels_addAll (s : Scope α) (ts : List (Tree α)) :
    (s.addAll ts).labels.map Tree.leaf =
      s.labels.map Tree.leaf ++ ts.filter fun t => !t.isGroup := by
  induction ts generalizing s with
  | nil => simp
  | cons t ts ih =>
    rw [addAll_cons, ih]
    cases t <;> simp [add, addLabel, addNode]

/-- A scope puts the trees that joined it into canonical order. -/
theorem items_addAll {s : Scope α} (hn : s.nodes = []) (hl : s.labels = []) (ts : List (Tree α)) :
    (s.addAll ts).items = Tree.groupsFirst ts := by
  rw [items, nodes_addAll, labels_addAll, hn, hl]
  rfl

/-- The same scope with its operator declared. -/
def declare (s : Scope α) (op : Connective) : Scope α := { s with operator := some op.kind }

lemma setOperator_of_none {s : Scope α} (h : s.operator = none) (op : Connective) :
    s.setOperator op.kind = .ok (s.declare op) := by
  simp [setOperator, h, declare]

lemma setOperator_of_same {s : Scope α} {op : Connective} (h : s.operator = some op.kind) :
    s.setOperator op.kind = .ok s := by
  simp [setOperator, h]

lemma add_declare (s : Scope α) (t : Tree α) (op : Connective) :
    (s.add t).declare op = (s.declare op).add t := by
  cases t <;> rfl

lemma build_of_items {s : Scope α} {ts : List (Tree α)} (hi : s.items = ts) (h : 2 ≤ ts.length)
    {op : Connective} (ho : s.operator = some op.kind) :
    s.build = .ok (Tree.ofChildren op ts h) := by
  obtain ⟨first, second, rest, rfl⟩ := Tree.exists_of_two_le h
  simp [build, hi, ho, connective_kind]

end Scope

namespace Formula

/-- Read as an item, an expression joins the scope around it in canonical order. -/
def Joins (e : Expr) : Prop := ∀ s, e.item.gather s = .ok (s.add e.canon)

lemma gather_items (op : Connective) {es : List Expr} (h : ∀ e ∈ es, Joins e) {s : Scope Label}
    (hs : s.operator = some op.kind) :
    (Expr.items op es).gather s = .ok (s.addAll (es.map Tree.canon)) := by
  induction es generalizing s with
  | nil => rfl
  | cons e es ih =>
    obtain ⟨hfirst, hrest⟩ := List.forall_mem_cons.mp h
    rw [Expr.items, gather, Scope.setOperator_of_same hs]
    show (e.item.append (Expr.items op es)).gather s = _
    rw [gather_append, hfirst]
    exact ih hrest (by rw [Scope.operator_add, hs])

/-- The brackets of a group gather its children in canonical order. -/
lemma gather_group (op : Connective) {first second : Expr} {rest : List Expr}
    (h : ∀ e ∈ first :: second :: rest, Joins e) :
    (first.item.append (Expr.items op (second :: rest))).gather .empty =
      .ok ((Scope.empty.declare op).addAll ((first :: second :: rest).map Tree.canon)) := by
  obtain ⟨hfirst, hmore⟩ := List.forall_mem_cons.mp h
  obtain ⟨hsecond, hrest⟩ := List.forall_mem_cons.mp hmore
  have hnone : (Scope.empty.add first.canon).operator = none := by rw [Scope.operator_add]; rfl
  rw [gather_append, hfirst]
  show (Expr.items op (second :: rest)).gather (Scope.empty.add first.canon) = _
  rw [Expr.items, gather, Scope.setOperator_of_none hnone]
  show (second.item.append (Expr.items op rest)).gather _ = _
  rw [gather_append, hsecond, Scope.add_declare]
  exact gather_items op hrest (by rw [Scope.operator_add, Scope.operator_add]; rfl)

lemma build_group (op : Connective) {first second : Expr} {rest : List Expr}
    (h : ∀ e ∈ first :: second :: rest, Joins e) :
    (first.item.append (Expr.items op (second :: rest))).build =
      .ok (Tree.group op first second rest).canon := by
  rw [build, gather_group op h, Tree.canon_group]
  exact Scope.build_of_items (Scope.items_addAll rfl rfl _) _ (Scope.operator_addAll _ _)

theorem joins (e : Expr) : Joins e := by
  induction e using Tree.induction with
  | leaf l =>
    intro s
    simp [Expr.item, gather, Scope.add]
  | group op first second rest ih =>
    intro s
    have hb := build_group op ih
    rw [Expr.items] at hb
    rw [Expr.item, gather_scope hb, Scope.add_of_isGroup s (by simp)]
    rfl

theorem build_formula (e : Expr) : e.formula.build = .ok e.canon := by
  cases e with
  | leaf l => rw [Expr.formula, Tree.canon_leaf]; rfl
  | group op first second rest => exact build_group op fun e _ => joins e

end Formula

namespace Expr

lemma WellEscaped.canon {e : Expr} (he : e.WellEscaped) : WellEscaped (Tree.canon e) := by
  intro l hl
  exact he l ((Tree.leaves_canon_perm e).mem_iff.mp hl)

/-- The text of a well escaped expression is accepted, and its tree is the canonical one. -/
theorem parse_text {e : Expr} (he : e.WellEscaped) : Expr.parse e.text = .ok (Tree.canon e) := by
  rw [parse_of_tokens (list_text he).symm]
  exact Formula.build_formula e

lemma parse_text_iff {e : Expr} (he : e.WellEscaped) :
    Expr.parse e.text = .ok e ↔ Tree.GroupsLead e := by
  rw [parse_text he, Except.ok.injEq]
  exact Tree.canon_eq_self_iff e

/-- Writing and parsing an expression makes it canonical, so it comes back unchanged just when no
leaf stands before a group in it; writing and parsing once more changes nothing. -/
theorem parse_render_eq_canon {e : Expr} (he : e.WellEscaped) :
    e.draft.render = .ok e.render ∧
      Expr.parse e.render = .ok (Tree.canon e) ∧
      (Expr.parse e.render = .ok e ↔ Tree.GroupsLead e) ∧
      Tree.canon (Tree.canon e) = Tree.canon e ∧
      (Expr.draft (Tree.canon e)).render = .ok (Expr.render (Tree.canon e)) ∧
      Expr.parse (Expr.render (Tree.canon e)) = .ok (Tree.canon e) := by
  have hcanon := Tree.canon_canon e
  have hsecond := parse_text (WellEscaped.canon he)
  rw [hcanon] at hsecond
  simp only [render_eq_text, Draft.render_draft]
  exact ⟨trivial, parse_text he, parse_text_iff he, hcanon, trivial, hsecond⟩

/-- The label `a"b` escaped, and the empty label, stand before a group and after it. -/
theorem parse_render_eq_canon_escaped :
    let e : Expr := .group .or (.leaf ['a', '\\', '"', 'b'])
      (.group .and (.leaf ['(']) (.leaf ['c']) []) [.leaf []]
    e.WellEscaped ∧
      Expr.parse e.render = .ok (.group .or (.group .and (.leaf ['(']) (.leaf ['c']) [])
        (.leaf ['a', '\\', '"', 'b']) [.leaf []]) := by
  intro e
  have he : e.WellEscaped := by unfold WellEscaped; decide
  obtain ⟨_, hparse, _⟩ := parse_render_eq_canon he
  exact ⟨he, hparse.trans rfl⟩

end Expr

end Clearance
