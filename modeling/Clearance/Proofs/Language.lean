import Clearance.Proofs.BracketTree

/-! Which texts are accepted, by what stands in their scopes. -/
namespace Clearance

namespace Token

/-- The scopes of a list of tokens: all of it, and what any two matching parentheses enclose. -/
def IsScope (ts content : List Token) : Prop := content = ts ∨ Enclosed ts content

/-- The rules for what stands directly in a scope. Operators may stand anywhere in it. -/
structure Sound (content : List Token) : Prop where
  unmixed : ¬ (.and ∈ operators content ∧ .or ∈ operators content)
  inhabited : 1 ≤ items content
  joined : 2 ≤ items content → operators content ≠ []

/-- The rules for a list of tokens to be an expression. -/
structure Legal (ts : List Token) : Prop where
  noStray : ∀ c, .stray c ∉ ts
  balanced : Balanced ts
  sound : ∀ content, IsScope ts content → Sound content

lemma isLast_of_legal {source : Text} (h : Legal (list source)) :
    ∀ t ∈ list source, t.isLast = false := by
  intro t ht
  cases t with
  | finish =>
    obtain ⟨p, hp, hf⟩ := List.mem_map.mp ht
    exact absurd hf (ne_finish_of_mem_stream hp)
  | stray c => exact absurd ht (h.noStray c)
  | _ => rfl

end Token

namespace Formula
open Token (Sound)

lemma exists_assemble_iff {ops : List Connective} {items : List Expr} :
    (∃ t, assemble ops items = some t) ↔ ¬ (.and ∈ ops ∧ .or ∈ ops) ∧ 1 ≤ items.length ∧
      (2 ≤ items.length → ops ≠ []) := by
  unfold assemble
  by_cases hm : .and ∈ ops ∧ .or ∈ ops
  · simp [hm]
  · rw [if_neg hm, and_iff_right hm]
    cases items with
    | nil => cases ops <;> simp
    | cons first items =>
      cases items with
      | nil => cases ops <;> simp
      | cons second rest => cases ops <;> simp

/-- Each scope in parentheses has a tree, and each label stands for itself. -/
lemma length_subtrees? {f : Formula} {ts : List Expr} (h : f.subtrees? = some ts) :
    ts.length + f.bare.length = f.size := by
  induction f generalizing ts with
  | nil =>
    obtain rfl := Option.some.inj h
    rfl
  | label l rest ih =>
    have hrest := ih h
    simp only [bare, size, List.length_cons]
    omega
  | operator op rest ih => exact ih h
  | scope inner rest _ ih =>
    obtain ⟨t, us, _, hus, rfl⟩ := subtrees?_scope_eq_some_iff.mp h
    have hrest := ih hus
    simp only [bare, size, List.length_cons]
    omega

lemma sound_tokens_iff (f : Formula) : Sound f.tokens ↔
    ¬ (.and ∈ f.operators ∧ .or ∈ f.operators) ∧ 1 ≤ f.size ∧ (2 ≤ f.size → f.operators ≠ []) := by
  have hmem : ∀ op : Connective, op.token ∈ Token.operators f.tokens ↔ op ∈ f.operators := by simp
  have hand := hmem .and
  have hor := hmem .or
  have hnil : Token.operators f.tokens = [] ↔ f.operators = [] := by simp
  rw [← hand, ← hor, ← items_tokens, ne_eq, ← hnil]
  exact ⟨fun h => ⟨h.unmixed, h.inhabited, h.joined⟩, fun ⟨hm, hi, hj⟩ => ⟨hm, hi, hj⟩⟩

lemma exists_tree?_iff_of_subtrees? {f : Formula}
    (h : (∃ ts, f.subtrees? = some ts) ↔ ∀ g ∈ f.scopes, Sound g.tokens) :
    (∃ t, f.tree? = some t) ↔ Sound f.tokens ∧ ∀ g ∈ f.scopes, Sound g.tokens := by
  have hsound : ∀ ts, f.subtrees? = some ts →
      ((∃ t, assemble f.operators (ts ++ f.bare.map .leaf) = some t) ↔ Sound f.tokens) := by
    intro ts hts
    rw [exists_assemble_iff, List.length_append, List.length_map, length_subtrees? hts,
      sound_tokens_iff]
  simp only [tree?_eq_some_iff]
  constructor
  · rintro ⟨t, ts, hts, ht⟩
    exact ⟨(hsound ts hts).mp ⟨t, ht⟩, h.mp ⟨ts, hts⟩⟩
  · rintro ⟨hf, hscopes⟩
    obtain ⟨ts, hts⟩ := h.mpr hscopes
    obtain ⟨t, ht⟩ := (hsound ts hts).mpr hf
    exact ⟨t, ts, hts, ht⟩

lemma exists_subtrees?_iff (f : Formula) :
    (∃ ts, f.subtrees? = some ts) ↔ ∀ g ∈ f.scopes, Sound g.tokens := by
  induction f with
  | nil => simp [subtrees?, scopes]
  | label l rest ih => exact ih
  | operator op rest ih => exact ih
  | scope inner rest ihInner ihRest =>
    have hin := exists_tree?_iff_of_subtrees? ihInner
    simp only [subtrees?_scope_eq_some_iff, scopes, List.forall_mem_cons, List.forall_mem_append]
    rw [← and_assoc, ← hin, ← ihRest]
    constructor
    · rintro ⟨_, t, ts, ht, hts, rfl⟩
      exact ⟨⟨t, ht⟩, ts, hts⟩
    · rintro ⟨⟨t, ht⟩, ts, hts⟩
      exact ⟨_, t, ts, ht, hts, rfl⟩

/-- A formula has a tree just when it keeps the rules. -/
theorem exists_tree?_iff (f : Formula) : (∃ t, f.tree? = some t) ↔ Token.Legal f.tokens := by
  rw [exists_tree?_iff_of_subtrees? f.exists_subtrees?_iff]
  constructor
  · rintro ⟨hf, hscopes⟩
    refine ⟨?_, f.balanced_tokens, ?_⟩
    · intro c hc
      exact absurd (isLast_of_mem_tokens hc) (by simp [Token.isLast])
    · rintro s (rfl | hs)
      · exact hf
      · obtain ⟨g, hg, rfl⟩ := enclosed_tokens_iff.mp hs
        exact hscopes g hg
  · intro h
    refine ⟨h.sound _ (.inl rfl), ?_⟩
    intro g hg
    exact h.sound _ (.inr (enclosed_of_mem_scopes hg))

end Formula

/-- A text is accepted if and only if its tokens keep the rules: no stray character, parentheses
that match, and in each scope an item, an operator if there are more items, and never both. -/
theorem Expr.exists_parse_iff_legal (source : Text) :
    (∃ e, Expr.parse source = .ok e) ↔ Token.Legal (Token.list source) := by
  constructor
  · rintro ⟨e, h⟩
    obtain ⟨f, hf, ht⟩ := parse_eq_ok_iff.mp h
    rw [← hf]
    exact f.exists_tree?_iff.mp ⟨e, ht⟩
  · intro h
    obtain ⟨f, hf⟩ := Formula.exists_of_balanced (Token.isLast_of_legal h) h.balanced
    rw [← hf] at h
    obtain ⟨e, he⟩ := f.exists_tree?_iff.mpr h
    exact ⟨e, parse_eq_ok_iff.mpr ⟨f, hf, he⟩⟩

end Clearance
