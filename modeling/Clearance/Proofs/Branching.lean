import Clearance.Display.Outline
import Clearance.Proofs.CanonicalOrder

/-! The branches that show an expression, one for each node of it. Hung up one by one off a stack of
work, each below the branch of its group, they make the same tree. -/
namespace Clearance

namespace Expr
open Display

mutual
/-- The tree that shows an expression, by recursion. -/
def drawing : Expr → Outline
  | .leaf l => .branch (outlineLabel (.leaf l)) []
  | .group op first second rest =>
    .branch (outlineLabel (.group op first second rest))
      (drawing first :: drawing second :: drawings rest)

def drawings : List Expr → List Outline
  | [] => []
  | e :: es => drawing e :: drawings es
end

@[simp] theorem drawings_eq (es : List Expr) : drawings es = es.map drawing := by
  induction es with
  | nil => rfl
  | cons e es ih => simp [drawings, ih]

lemma drawing_eq (e : Expr) : e.drawing = .branch e.outlineLabel (e.children.map drawing) := by
  cases e <;> simp [drawing]

/-- An entry takes what lies deeper, up to the first that does not. -/
lemma graft_append {entry : Outline.Entry} {under others : List (Nat × Outline)}
    (hu : ∀ t ∈ under, entry.depth < t.1) (ho : ∀ t ∈ others, t.1 ≤ entry.depth) :
    Outline.graft entry (under ++ others) =
      (entry.depth, .branch entry.label (under.map Prod.snd)) :: others := by
  have hdeeper : ∀ t ∈ under, decide (entry.depth < t.1) = true := fun t ht =>
    decide_eq_true (hu t ht)
  rw [Outline.graft, List.takeWhile_append_of_pos hdeeper, List.dropWhile_append_of_pos hdeeper]
  cases others with
  | nil => simp
  | cons t others =>
    have ht : ¬ entry.depth < t.1 := Nat.not_lt.mpr (ho t List.mem_cons_self)
    simp [ht]

/-- No branch on the stack lies deeper than one before it, so each takes just what has been put
there for it. -/
lemma assemble_entries {todo : List (Nat × Expr)} (h : todo.Pairwise fun x y => y.1 ≤ x.1) :
    Outline.assemble (entries todo) = todo.map fun x => (x.1, x.2.drawing) := by
  fun_induction entries todo with
  | case1 => rfl
  | case2 depth l todo ih =>
    obtain ⟨hfirst, hrest⟩ := List.pairwise_cons.mp h
    have ho : ∀ t ∈ todo.map fun x => (x.1, x.2.drawing), t.1 ≤ depth :=
      List.forall_mem_map.mpr hfirst
    rw [Outline.assemble_cons, ih hrest, List.map_cons, drawing_eq]
    exact @graft_append ⟨depth, outlineLabel (.leaf l)⟩ [] _ nofun ho
  | case3 depth op first second rest todo ih =>
    obtain ⟨hfirst, hrest⟩ := List.pairwise_cons.mp h
    have ho : ∀ t ∈ todo.map fun x => (x.1, x.2.drawing), t.1 ≤ depth :=
      List.forall_mem_map.mpr hfirst
    have hall : ((first :: second :: rest).map (fun t => (depth + 1, t)) ++ todo).Pairwise
        fun x y => y.1 ≤ x.1 := by
      refine List.pairwise_append.mpr ⟨?_, hrest, ?_⟩
      · exact List.pairwise_map.mpr (List.pairwise_of_forall fun _ _ => Nat.le_refl _)
      · intro x hx y hy
        obtain ⟨t, _, rfl⟩ := List.mem_map.mp hx
        exact Nat.le_succ_of_le (hfirst y hy)
    rw [Outline.assemble_cons, ih hall, List.map_append, graft_append ?_ ho]
    · simp [drawing_eq, Function.comp_def]
    · simp

theorem branches_eq_drawing (e : Expr) : e.branches = [e.drawing] := by
  rw [branches, assemble_entries (List.pairwise_singleton _ _)]
  rfl

end Expr

namespace Display

namespace Outline

mutual
/-- How many branches there are in a tree. -/
def size : Outline → Nat
  | branch _ branches => sizes branches + 1

def sizes : List Outline → Nat
  | [] => 0
  | t :: ts => t.size + sizes ts
end

lemma sizes_append (ts us : List Outline) : sizes (ts ++ us) = sizes ts + sizes us := by
  induction ts with
  | nil => simp [sizes]
  | cons t ts ih => simp [sizes, ih, Nat.add_assoc]

/-- The numbers of trees one after the other, if all their branches are numbered from the top
down. -/
def numbers (n : Nat) : List Outline → List Nat
  | [] => []
  | t :: ts => n :: numbers (n + t.size) ts

lemma numbers_append (n : Nat) (ts us : List Outline) :
    numbers n (ts ++ us) = numbers n ts ++ numbers (n + sizes ts) us := by
  induction ts generalizing n with
  | nil => rfl
  | cons t ts ih => simp [numbers, sizes, ih, Nat.add_assoc]

end Outline

/-- A branch that knows those directly under it by number. -/
structure Cell where
  label : Text
  branches : List Nat
deriving DecidableEq, Repr

/-- Branches that are numbered as they are made, and are changed where they are. -/
abbrev Board := List Cell

namespace Board

/-- A new branch under one that is there. -/
def add (b : Board) (parent : Nat) (label : Text) : Board :=
  b.modify parent (fun c => { c with branches := c.branches ++ [b.length] }) ++ [⟨label, []⟩]

/-- Hangs up expressions, each under a branch that is there. A group is hung up by itself, and its
children are put on the stack so that the first of them is taken next. -/
def hang (b : Board) (todo : List (Nat × Expr)) : Board :=
  match todo with
  | [] => b
  | (parent, .leaf l) :: todo => hang (b.add parent (Expr.outlineLabel (.leaf l))) todo
  | (parent, .group op first second rest) :: todo =>
    hang (b.add parent (Expr.outlineLabel (.group op first second rest)))
      ((first :: second :: rest).map (fun t => (b.length, t)) ++ todo)
termination_by Tree.workAll (todo.map Prod.snd)
decreasing_by
  all_goals simp [Tree.workAll, Tree.work, Function.comp_def]
  all_goals omega

mutual
/-- A tree lies on a board from a number on: its branches have the numbers that follow, from the top
down. -/
def Lies (b : Board) : Nat → Outline → Prop
  | n, .branch label ts => b[n]? = some ⟨label, Outline.numbers (n + 1) ts⟩ ∧ LieAll b (n + 1) ts

def LieAll (b : Board) : Nat → List Outline → Prop
  | _, [] => True
  | n, t :: ts => Lies b n t ∧ LieAll b (n + t.size) ts
end

/-- Trees have been hung up under a branch in order, and nothing else has been done. -/
structure Hung (b : Board) (parent : Nat) (ts : List Outline) (b' : Board) : Prop where
  length : b'.length = b.length + Outline.sizes ts
  above : b'[parent]? = b[parent]?.map fun c =>
    { c with branches := c.branches ++ Outline.numbers b.length ts }
  kept : ∀ n < b.length, n ≠ parent → b'[n]? = b[n]?
  lie : LieAll b' b.length ts

variable {b b' b'' : Board} {parent n : Nat} {label : Text} {ts us : List Outline}

mutual
/-- What lies on a board does so on any other that holds the same at its numbers. -/
lemma Lies.congr {n : Nat} : {t : Outline} → (h : Lies b n t) →
    (hb : ∀ k, n ≤ k → k < n + t.size → b'[k]? = b[k]?) → Lies b' n t
  | .branch label ts, h, hb => by
    rw [Outline.size] at hb
    refine ⟨(hb n (Nat.le_refl n) (by omega)).trans h.1, LieAll.congr h.2 ?_⟩
    intro k hk hlt
    exact hb k (by omega) (by omega)

lemma LieAll.congr {n : Nat} : {ts : List Outline} → (h : LieAll b n ts) →
    (hb : ∀ k, n ≤ k → k < n + Outline.sizes ts → b'[k]? = b[k]?) → LieAll b' n ts
  | [], _, _ => trivial
  | t :: ts, h, hb => by
    rw [Outline.sizes] at hb
    refine ⟨Lies.congr h.1 ?_, LieAll.congr h.2 ?_⟩
    · intro k hk hlt
      exact hb k hk (by omega)
    · intro k hk hlt
      exact hb k (by omega) (by omega)
end

lemma LieAll.append (ht : LieAll b n ts) (hu : LieAll b (n + Outline.sizes ts) us) :
    LieAll b n (ts ++ us) := by
  induction ts generalizing n with
  | nil => exact hu
  | cons t ts ih =>
    rw [Outline.sizes, ← Nat.add_assoc] at hu
    exact ⟨ht.1, ih ht.2 hu⟩

lemma Hung.refl (b : Board) (parent : Nat) : Hung b parent [] b where
  length := rfl
  above := by simp [Outline.numbers]
  kept _ _ _ := rfl
  lie := trivial

lemma Hung.trans (hp : parent < b.length) (h : Hung b parent ts b') (h' : Hung b' parent us b'') :
    Hung b parent (ts ++ us) b'' where
  length := by rw [h'.length, h.length, Outline.sizes_append, Nat.add_assoc]
  above := by
    rw [h'.above, h.above, Option.map_map, h.length, Outline.numbers_append]
    simp [Function.comp_def]
  kept n hn hne := by
    rw [h'.kept n (by rw [h.length]; omega) hne, h.kept n hn hne]
  lie := by
    refine (h.lie.congr ?_).append (h.length ▸ h'.lie)
    intro k hk hlt
    exact h'.kept k (h.length ▸ hlt) (by omega)

lemma length_add (b : Board) (parent : Nat) (label : Text) :
    (b.add parent label).length = b.length + 1 := by simp [add]

lemma getElem?_add_length (b : Board) (parent : Nat) (label : Text) :
    (b.add parent label)[b.length]? = some ⟨label, []⟩ := by simp [add]

lemma getElem?_add (hn : n < b.length) : (b.add parent label)[n]? =
    if n = parent then b[n]?.map fun c => { c with branches := c.branches ++ [b.length] }
    else b[n]? := by
  rw [add, List.getElem?_append_left (by simpa using hn), List.getElem?_modify]
  by_cases h : n = parent
  · simp [h]
  · simp [h, Ne.symm h]

/-- Trees hung up under a new branch make one tree with it. -/
lemma Hung.under (hp : parent < b.length) (h : Hung (b.add parent label) b.length ts b') :
    Hung b parent [.branch label ts] b' where
  length := by
    rw [h.length, length_add]
    simp only [Outline.sizes, Outline.size]
    omega
  above := by
    rw [h.kept parent (by rw [length_add]; omega) (by omega), getElem?_add hp, if_pos rfl]
    rfl
  kept n hn hne := by
    rw [h.kept n (by rw [length_add]; omega) (by omega), getElem?_add hn, if_neg hne]
  lie := by
    have hlie := h.lie
    have habove := h.above
    rw [length_add] at hlie habove
    rw [getElem?_add_length] at habove
    exact ⟨⟨habove, hlie⟩, trivial⟩

lemma hang_append (b : Board) (todo more : List (Nat × Expr)) :
    b.hang (todo ++ more) = (b.hang todo).hang more := by
  fun_induction hang b todo with
  | case1 b => rfl
  | case2 b parent l todo ih => rw [List.cons_append, hang, ih]
  | case3 b parent op first second rest todo ih =>
    rw [List.cons_append, hang, ← ih, List.append_assoc]

lemma hung_hang_children {es : List Expr} (h : ∀ e ∈ es, ∀ {b : Board} {parent : Nat},
      parent < b.length → Hung b parent [e.drawing] (b.hang [(parent, e)]))
    (hp : parent < b.length) :
    Hung b parent (es.map Expr.drawing) (b.hang (es.map fun e => (parent, e))) := by
  induction es generalizing b with
  | nil =>
    rw [List.map_nil, List.map_nil, hang]
    exact Hung.refl b parent
  | cons e es ih =>
    obtain ⟨hfirst, hrest⟩ := List.forall_mem_cons.mp h
    have he := hfirst hp
    have hp' : parent < (b.hang [(parent, e)]).length := by
      rw [he.length]
      omega
    show Hung b parent ([e.drawing] ++ es.map Expr.drawing)
      (b.hang ([(parent, e)] ++ es.map fun e => (parent, e)))
    rw [hang_append]
    exact he.trans hp (ih hrest hp')

/-- The children of a group are hung up one after the other, each with all that is under it. -/
theorem hung_hang (e : Expr) (hp : parent < b.length) :
    Hung b parent [e.drawing] (b.hang [(parent, e)]) := by
  induction e using Tree.induction generalizing b parent with
  | leaf l =>
    rw [hang, hang, Expr.drawing_eq]
    exact Hung.under hp (Hung.refl _ _)
  | group op first second rest ih =>
    rw [hang, List.append_nil, Expr.drawing_eq]
    apply Hung.under hp
    exact hung_hang_children (fun e he => ih e he) (by rw [length_add]; omega)

end Board

end Display

namespace Expr
open Display

/-- One branch shows an expression, labelled with its connective or its label, and the branches of
its children are under it in order. Hung up on a board, it comes last under the branch it is hung
up under, with all of its branches where they belong, and nothing else is changed. -/
theorem branches_structural (e : Expr) :
    e.branches = [e.drawing] ∧
    (∀ l, branches (.leaf l) = [.branch (Markup.styled "cyan" l) []]) ∧
    (∀ op first second rest, branches (.group op first second rest) =
      [.branch (Markup.styled "bold" op.capitals.toList)
        ((first :: second :: rest).flatMap branches)]) ∧
    ∀ (b : Board) (parent : Nat), parent < b.length →
      Board.Hung b parent [e.drawing] (b.hang [(parent, e)]) := by
  refine ⟨branches_eq_drawing e, ?_, ?_, fun b parent => Board.hung_hang e⟩
  · intro l
    rw [branches_eq_drawing, drawing_eq]
    rfl
  · intro op first second rest
    have hchildren (es : List Expr) : es.flatMap branches = es.map drawing := by
      rw [funext branches_eq_drawing]
      exact List.map_eq_flatMap.symm
    rw [branches_eq_drawing, drawing_eq, hchildren]
    rfl

/-- The second branch under a heading, of an expression with a group before a label. -/
theorem branches_structural_second :
    let e : Expr := .group .and (.group .or (.leaf ['a']) (.leaf ['b']) []) (.leaf ['c']) []
    let b : Board := [⟨['h'], [1]⟩, ⟨['x'], []⟩]
    let b' := b.hang [(0, e)]
    0 < b.length ∧ b'.length = 7 ∧ b'[0]? = some ⟨['h'], [1, 2]⟩ ∧ b'[1]? = some ⟨['x'], []⟩ ∧
      b'[2]? = some ⟨Markup.styled "bold" "AND".toList, [3, 6]⟩ ∧
      b'[3]? = some ⟨Markup.styled "bold" "OR".toList, [4, 5]⟩ ∧
      b'[6]? = some ⟨Markup.styled "cyan" ['c'], []⟩ := by
  intro e b b'
  have hp : 0 < b.length := by decide
  obtain ⟨hlength, habove, hkept, ⟨hand, ⟨hor, _⟩, hc, _⟩, _⟩ :=
    (branches_structural e).2.2.2 b 0 hp
  exact ⟨hp, hlength, habove, hkept 1 (by decide) (by decide), hand, hor, hc.1⟩

end Expr

end Clearance
