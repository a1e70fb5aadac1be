import Clearance.Proofs.Formula
import Mathlib.Data.List.Permutation

/-! What reading a formula leaves in its scope: the operator written there, and all labels. -/
namespace Clearance

namespace Scope
variable {s s' : Scope Label}

lemma items_addNode_perm (s : Scope Label) (t : Expr) :
    (s.addNode t).items.Perm (s.items ++ [t]) := by
  simp only [items, addNode, List.append_assoc]
  exact (List.perm_append_comm).append_left s.nodes

lemma setOperator_eq_ok_iff {kind : Token.Kind} : s.setOperator kind = .ok s' ↔
    s' = { s with operator := some kind } ∧ ∀ k, s.operator = some k → k = kind := by
  unfold setOperator
  cases ho : s.operator with
  | none => simp [eq_comm]
  | some declared =>
    by_cases hd : declared = kind
    · have hs : { s with operator := some kind } = s := by rw [← hd, ← ho]
      simp [hd, hs, eq_comm]
    · simp [hd]

lemma of_setOperator {kind : Token.Kind} (h : s.setOperator kind = .ok s') :
    s'.items = s.items ∧ s'.operator = some kind ∧ ∀ k, s.operator = some k → k = kind := by
  obtain ⟨rfl, hold⟩ := setOperator_eq_ok_iff.mp h
  exact ⟨rfl, rfl, hold⟩

/-- What the operators written in a scope make of the operator it had before. -/
structure Declares (ops : List Connective) (before after : Option Token.Kind) : Prop where
  keeps : ∀ k, before = some k → after = some k
  declares : ∀ op ∈ ops, after = some op.kind
  idle : ops = [] → after = before

lemma declares_nil_iff {o o' : Option Token.Kind} : Declares [] o o' ↔ o' = o := by
  constructor
  · exact fun h => h.idle rfl
  · rintro rfl
    exact ⟨fun _ hk => hk, by simp, fun _ => rfl⟩

/-- The first of several operators is declared, and the others have to agree. -/
lemma declares_cons_iff {op : Connective} {ops : List Connective} {o o' : Option Token.Kind} :
    Declares (op :: ops) o o' ↔
      (∀ k, o = some k → k = op.kind) ∧ Declares ops (some op.kind) o' := by
  constructor
  · intro h
    have hop := h.declares op (by simp)
    refine ⟨?_, ?_, ?_, fun _ => hop⟩
    · intro k hk
      exact Option.some.inj ((h.keeps k hk).symm.trans hop)
    · rintro k hk
      rw [hop, hk]
    · exact fun p hp => h.declares p (by simp [hp])
  · rintro ⟨hk, h⟩
    have hop := h.keeps _ rfl
    refine ⟨?_, ?_, by simp⟩
    · intro k hs
      rw [hk k hs, hop]
    · rintro p (_ | ⟨_, hp⟩)
      · exact hop
      · exact h.declares p hp

lemma leaves_of_build {t : Expr} (h : s.build = .ok t) :
    t.leaves = s.items.flatMap Tree.leaves := by
  unfold build at h
  split at h
  · next u _ hi =>
    obtain rfl := Except.ok.inj h
    simp [hi]
  · next first second rest kind hi _ =>
    obtain rfl := Except.ok.inj h
    simp [hi, Tree.leaves]
  · contradiction

end Scope

/-- The label a token carries, if it carries one. -/
def Token.label? : Token → Option Label
  | label l => some l
  | _ => none

namespace Formula

lemma gather_append (f g : Formula) (s : Scope Label) :
    (f.append g).gather s = f.gather s >>= g.gather := by
  induction f generalizing s with
  | nil => rfl
  | label l rest ih => exact ih (s.addLabel l)
  | operator op rest ih =>
    rw [append, gather, gather, bind_assoc]
    exact bind_congr ih
  | scope inner rest _ ih =>
    rw [append, gather, gather]
    simp only [bind_assoc]
    apply bind_congr
    intro inside
    apply bind_congr
    intro t
    exact ih (s.addNode t)

lemma gather_scope {inner : Formula} {t : Expr} (h : inner.build = .ok t) (rest : Formula)
    (s : Scope Label) : (scope inner rest).gather s = rest.gather (s.addNode t) := by
  obtain ⟨inside, hg, hb⟩ := Refusal.bind_eq_ok_iff.mp h
  rw [gather, hg]
  show inside.build >>= (fun t => rest.gather (s.addNode t)) = _
  rw [hb]
  rfl

/-- A formula is read into a scope piece by piece, brackets when what stands in them is built. -/
inductive Reads : Formula → Scope Label → Scope Label → Prop
  | nil {s} : Reads .nil s s
  | label {l rest s s'} (tail : Reads rest (s.addLabel l) s') : Reads (.label l rest) s s'
  | operator {op rest s s₁ s'} (declared : s.setOperator op.kind = .ok s₁)
      (tail : Reads rest s₁ s') : Reads (.operator op rest) s s'
  | scope {inner rest s s' inside t} (within : Reads inner .empty inside)
      (built : inside.build = .ok t) (tail : Reads rest (s.addNode t) s') :
      Reads (.scope inner rest) s s'

theorem reads_of_gather {f : Formula} {s s' : Scope Label} (h : f.gather s = .ok s') :
    Reads f s s' := by
  induction f generalizing s s' with
  | nil =>
    obtain rfl := Except.ok.inj h
    exact .nil
  | label l rest ih => exact .label (ih h)
  | operator op rest ih =>
    obtain ⟨s₁, hs, hr⟩ := Refusal.bind_eq_ok_iff.mp h
    exact .operator hs (ih hr)
  | scope inner rest ihInner ihRest =>
    obtain ⟨inside, hg, hr⟩ := Refusal.bind_eq_ok_iff.mp h
    obtain ⟨t, hb, hr⟩ := Refusal.bind_eq_ok_iff.mp hr
    exact .scope (ihInner hg) hb (ihRest hr)

lemma exists_reads_of_build {f : Formula} {e : Expr} (h : f.build = .ok e) :
    ∃ s, Reads f .empty s ∧ s.build = .ok e := by
  obtain ⟨s, hg, hb⟩ := Refusal.bind_eq_ok_iff.mp h
  exact ⟨s, reads_of_gather hg, hb⟩

/-- How many items stand directly in a scope. -/
def size : Formula → Nat
  | nil => 0
  | label _ rest => rest.size + 1
  | operator _ rest => rest.size
  | scope _ rest => rest.size + 1

/-- The operators directly in a scope, in written order. -/
def operators : Formula → List Connective
  | nil => []
  | label _ rest => rest.operators
  | operator op rest => op :: rest.operators
  | scope _ rest => rest.operators

lemma Reads.length_items {f : Formula} {s s' : Scope Label} (h : Reads f s s') :
    s'.items.length = s.items.length + f.size := by
  induction h with
  | nil => rfl
  | label _ ih =>
    rw [ih, Scope.items_addLabel, List.length_append, List.length_singleton, size]
    omega
  | operator hs _ ih => rw [ih, (Scope.of_setOperator hs).1, size]
  | @scope _ _ s _ _ t _ _ _ _ ih =>
    rw [ih, (Scope.items_addNode_perm s t).length_eq, List.length_append, List.length_singleton,
      size]
    omega

/-- A scope ends with the operator that is written in it, if any is. -/
lemma Reads.operator_eq {f : Formula} {s s' : Scope Label} (h : Reads f s s') :
    Scope.Declares f.operators s.operator s'.operator := by
  induction h with
  | nil => exact Scope.declares_nil_iff.mpr rfl
  | label _ ih => exact ih
  | operator hs _ ih =>
    obtain ⟨_, hop, hold⟩ := Scope.of_setOperator hs
    exact Scope.declares_cons_iff.mpr ⟨hold, hop ▸ ih⟩
  | scope _ _ _ _ ih => exact ih

/-- The labels in a formula at any depth, in written order. -/
def labels : Formula → List Label
  | nil => []
  | label l rest => l :: rest.labels
  | operator _ rest => rest.labels
  | scope inner rest => inner.labels ++ rest.labels

/-- They are the labels among its tokens. -/
lemma filterMap_tokens (f : Formula) : f.tokens.filterMap Token.label? = f.labels := by
  induction f with
  | nil => rfl
  | label l rest ih => exact congrArg (l :: ·) ih
  | operator op rest ih => cases op <;> exact ih
  | scope inner rest ihInner ihRest =>
    show (inner.tokens ++ .closeParen :: rest.tokens).filterMap Token.label? = _
    rw [List.filterMap_append, ihInner]
    exact congrArg (inner.labels ++ ·) ihRest

lemma label_mem_tokens_iff {f : Formula} {l : Label} : .label l ∈ f.tokens ↔ l ∈ f.labels := by
  rw [← filterMap_tokens, List.mem_filterMap]
  constructor
  · exact fun h => ⟨_, h, rfl⟩
  · rintro ⟨t, ht, hl⟩
    cases t with
    | label k =>
      obtain rfl := Option.some.inj hl
      exact ht
    | _ => contradiction

/-- No label is lost, made up or doubled, only moved. -/
theorem Reads.leaves_perm {f : Formula} {s s' : Scope Label} (h : Reads f s s') :
    (s'.items.flatMap Tree.leaves).Perm (s.items.flatMap Tree.leaves ++ f.labels) := by
  induction h with
  | nil => simp [labels]
  | label _ ih => simpa [labels, Tree.leaves] using ih
  | operator hs _ ih => exact (Scope.of_setOperator hs).1 ▸ ih
  | @scope inner rest s s' inside t _ hb _ ihInner ihRest =>
    have hin : t.leaves.Perm inner.labels := by
      simpa [Scope.leaves_of_build hb] using ihInner
    have hnode := (Scope.items_addNode_perm s t).flatMap_right Tree.leaves
    have hlast : ((s.items ++ [t]).flatMap Tree.leaves ++ rest.labels).Perm
        (s.items.flatMap Tree.leaves ++ (inner.labels ++ rest.labels)) := by
      simpa using (hin.append_right rest.labels).append_left _
    exact ihRest.trans ((hnode.append_right _).trans hlast)

theorem leaves_of_build {f : Formula} {e : Expr} (h : f.build = .ok e) :
    e.leaves.Perm f.labels := by
  obtain ⟨s, hr, hb⟩ := exists_reads_of_build h
  simpa [Scope.leaves_of_build hb] using hr.leaves_perm

end Formula

end Clearance
