import Clearance.Proofs.Expressible
import Clearance.Proofs.RoundTrip

/-! Accepted texts that come back from being written as the same tree. Parentheses around a lone
label are not written again, so no such label may stand before a group between parentheses. -/
namespace Clearance

namespace Tree
variable {α : Type}

/-- Among some flags, those that are set come first. -/
def Leading (flags : List Bool) : Prop := flags.Pairwise fun a b => b = true → a = true

lemma leavesLast_iff (ts : List (Tree α)) : LeavesLast ts ↔ Leading (ts.map isGroup) := by
  rw [Leading, List.pairwise_map, LeavesLast]

/-- Leaves at the end are in nobody's way. -/
lemma leavesLast_append_leaves (ts : List (Tree α)) (as : List α) :
    LeavesLast (ts ++ as.map leaf) ↔ LeavesLast ts := by
  constructor
  · intro h
    exact (List.pairwise_append.mp h).1
  · intro h
    apply List.pairwise_append.mpr
    refine ⟨h, ?_, ?_⟩
    · apply List.pairwise_of_forall_mem_list
      rintro _ _ _ ht hg
      obtain ⟨a, _, rfl⟩ := List.mem_map.mp ht
      contradiction
    · rintro _ _ _ ht hg
      obtain ⟨a, _, rfl⟩ := List.mem_map.mp ht
      contradiction

end Tree

namespace Scope
variable {s s' : Scope Label} {t : Expr}

lemma nodes_of_setOperator {kind : Token.Kind} (h : s.setOperator kind = .ok s') :
    s'.nodes = s.nodes := by rw [(setOperator_eq_ok_iff.mp h).1]

/-- A scope is a group if it has several items, or a group for its single item. -/
lemma isGroup_of_build (h : s.build = .ok t) :
    Tree.isGroup t = true ↔ 2 ≤ s.items.length ∨ s.nodes.map Tree.isGroup = [true] := by
  unfold build at h
  split at h
  · next u _ hi =>
    obtain rfl := Except.ok.inj h
    rw [hi]
    obtain ⟨hn, hl⟩ | ⟨hn, hl⟩ := List.append_eq_singleton_iff.mp hi
    · obtain ⟨a, _, rfl⟩ := List.map_eq_singleton_iff.mp hl
      simp [hn]
    · simp [hn]
  · next first second rest kind hi _ =>
    obtain rfl := Except.ok.inj h
    simp [hi]
  · contradiction

lemma groupsLead_of_build (h : s.build = .ok t) :
    Tree.GroupsLead t ↔ Tree.LeavesLast s.nodes ∧ ∀ u ∈ s.nodes, Tree.GroupsLead u := by
  have hitems : (∀ u ∈ s.items, Tree.GroupsLead u) ↔ ∀ u ∈ s.nodes, Tree.GroupsLead u := by
    simp only [items, List.forall_mem_append, List.forall_mem_map]
    exact and_iff_left fun _ _ => trivial
  rw [← hitems, ← Tree.leavesLast_append_leaves s.nodes s.labels]
  show _ ↔ Tree.LeavesLast s.items ∧ _
  unfold build at h
  split at h
  · next u _ hi =>
    obtain rfl := Except.ok.inj h
    simp [hi, Tree.LeavesLast]
  · next first second rest kind hi _ =>
    obtain rfl := Except.ok.inj h
    rw [hi]
    exact Tree.groupsLead_group_iff _ _ _ _
  · contradiction

end Scope

namespace Formula

/-- Which of the scopes directly in a scope are groups: those with several items, and those with a
group for their single item. -/
def groups : Formula → List Bool
  | nil => []
  | label _ rest => rest.groups
  | operator _ rest => rest.groups
  | scope inner rest => decide (2 ≤ inner.size ∨ inner.groups = [true]) :: rest.groups

/-- In each scope between parentheses the groups precede the lone labels in parentheses. -/
def ScopesLead : Formula → Prop
  | nil => True
  | label _ rest => rest.ScopesLead
  | operator _ rest => rest.ScopesLead
  | scope inner rest => (Tree.Leading inner.groups ∧ inner.ScopesLead) ∧ rest.ScopesLead

/-- In each scope, the whole text too, the groups precede the lone labels in parentheses. -/
def GroupsLead (f : Formula) : Prop := Tree.Leading f.groups ∧ f.ScopesLead

/-- The sub-trees of a scope are groups as the text says. -/
lemma Reads.isGroup_nodes {f : Formula} {s s' : Scope Label} (h : Reads f s s') :
    s'.nodes.map Tree.isGroup = s.nodes.map Tree.isGroup ++ f.groups := by
  induction h with
  | nil => simp [groups]
  | label _ ih => exact ih
  | operator hs _ ih => rw [ih, Scope.nodes_of_setOperator hs, groups]
  | @scope inner _ _ _ inside t within hb _ ihInner ihRest =>
    have hlen : inside.items.length = inner.size := by simpa using within.length_items
    have hnodes : inside.nodes.map Tree.isGroup = inner.groups := ihInner
    have ht : Tree.isGroup t = decide (2 ≤ inner.size ∨ inner.groups = [true]) := by
      rw [Bool.eq_iff_iff, Scope.isGroup_of_build hb, hlen, hnodes, decide_eq_true_iff]
    rw [ihRest, groups, ← ht]
    simp [Scope.addNode]

lemma Reads.groupsLead_nodes {f : Formula} {s s' : Scope Label} (h : Reads f s s') :
    (∀ u ∈ s'.nodes, Tree.GroupsLead u) ↔ (∀ u ∈ s.nodes, Tree.GroupsLead u) ∧ f.ScopesLead := by
  induction h with
  | nil => simp [ScopesLead]
  | label _ ih => exact ih
  | operator hs _ ih => rw [ih, Scope.nodes_of_setOperator hs, ScopesLead]
  | @scope inner _ _ _ inside t within hb _ ihInner ihRest =>
    have hin : Tree.GroupsLead t ↔ Tree.Leading inner.groups ∧ inner.ScopesLead := by
      rw [Scope.groupsLead_of_build hb, Tree.leavesLast_iff, within.isGroup_nodes, ihInner]
      simp [Scope.empty]
    rw [ihRest, ScopesLead, ← hin, ← and_assoc]
    simp [Scope.addNode, or_imp, forall_and]

theorem groupsLead_of_build {f : Formula} {e : Expr} (h : f.build = .ok e) :
    Tree.GroupsLead e ↔ f.GroupsLead := by
  obtain ⟨s, hr, hb⟩ := exists_reads_of_build h
  rw [Scope.groupsLead_of_build hb, Tree.leavesLast_iff, hr.isGroup_nodes, hr.groupsLead_nodes]
  simp [GroupsLead, Scope.empty]

end Formula

namespace Expr

/-- The tree of an accepted text is always written, and the text is accepted with the canonical
tree. It is the same tree if and only if in each scope of the source the groups precede the lone
labels in parentheses. -/
theorem parse_render_parse {source : Text} {e : Expr} (h : Expr.parse source = .ok e) :
    e.draft.render = .ok e.render ∧
      Expr.parse e.render = .ok (Tree.canon e) ∧
      (Expr.parse e.render = .ok e ↔ Tree.GroupsLead e) ∧
      (∃ f : Formula, f.tokens = Token.list source) ∧
      ∀ f : Formula, f.tokens = Token.list source →
        (Expr.parse e.render = .ok e ↔ f.GroupsLead) := by
  have he := wellEscaped_of_parse h
  simp only [render_eq_text, Draft.render_draft]
  refine ⟨trivial, parse_text he, parse_text_iff he, Formula.exists_of_parse h, ?_⟩
  intro f hf
  rw [parse_of_tokens hf] at h
  rw [parse_text_iff he]
  exact Formula.groupsLead_of_build h

/-- A lone label in parentheses may follow a group. -/
theorem parse_render_parse_lone_label_last :
    ∃ e : Expr, Expr.parse "(b & c) | ((a)) | \"x y\"".toList = .ok e ∧
      Expr.parse e.render = .ok e := by
  have h : Expr.parse "(b & c) | ((a)) | \"x y\"".toList = .ok (.group .or
      (.group .and (.leaf ['b']) (.leaf ['c']) []) (.leaf ['a']) [.leaf ['x', ' ', 'y']]) := by cbv
  obtain ⟨_, _, hiff, _⟩ := parse_render_parse h
  exact ⟨_, h, hiff.mpr (by decide)⟩

/-- A lone label in parentheses before a group loses its place, since it is written without
them. -/
theorem parse_render_lone_label_first :
    ∃ e : Expr, Expr.parse "(a) & (b & c)".toList = .ok e ∧
      e.render = "a & (b & c)".toList ∧
      Expr.parse e.render = .ok (.group .and
        (.group .and (.leaf ['b']) (.leaf ['c']) []) (.leaf ['a']) []) ∧
      Expr.parse e.render ≠ .ok e := by
  have h : Expr.parse "(a) & (b & c)".toList = .ok (.group .and (.leaf ['a'])
      (.group .and (.leaf ['b']) (.leaf ['c']) []) []) := by cbv
  have he := wellEscaped_of_parse h
  refine ⟨_, h, ?_, ?_, ?_⟩
  · rw [render_eq_text]
    decide
  · rw [render_eq_text, parse_text he]
    rfl
  · rw [render_eq_text, ne_eq, parse_text_iff he]
    decide

end Expr

end Clearance
