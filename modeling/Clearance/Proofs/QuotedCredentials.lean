import Clearance.Proofs.Monotonicity

/-! Labels between quotes, in a list of credentials and in an expression. Both read the label itself
as long as it has no comma; with a comma no credentials hold it. -/
namespace Clearance

namespace Text

lemma trim_subset (s : Text) : s.trim ⊆ s := by
  intro c hc
  rw [trim, dropEndWhile, List.mem_reverse] at hc
  exact List.dropWhile_subset _ (List.mem_reverse.mp (List.dropWhile_subset _ hc))

end Text

namespace Credentials

lemma unquote_subset (s : Text) : unquote s ⊆ s := by
  have hend : ∀ t : Text, t ⊆ s → (if t.getLast? = some '"' then t.dropLast else t) ⊆ s := by
    intro t ht
    split
    · exact List.Subset.trans (List.dropLast_subset t) ht
    · exact ht
  unfold unquote
  apply hend
  split
  · exact List.subset_cons_self _ _
  · exact List.Subset.refl _

/-- Credentials are parted at each comma, so no label that they hold has one. -/
lemma comma_not_mem_of_mem_labels {credentials : Text} {l : Label} (h : l ∈ labels credentials) :
    ',' ∉ l := by
  obtain ⟨item, hi, rfl⟩ := List.mem_map.mp (List.mem_eraseDups.mp h)
  intro hc
  exact Text.not_mem_of_mem_splitOn hi (Text.trim_subset item (unquote_subset item.trim hc))

lemma holds_of_comma_mem {strict : Bool} {credentials : Text} {S : LabelSet}
    (h : read strict credentials = .ok S) {l : Label} (hl : ',' ∈ l) : S.holds l = false := by
  obtain hr | ⟨index, item, hr⟩ := read_cases strict credentials
  · rw [hr] at h
    obtain rfl := Except.ok.inj h
    exact decide_eq_false fun hm => comma_not_mem_of_mem_labels hm hl
  · rw [hr] at h
    contradiction

end Credentials

/-- A well escaped label between quotes is an expression that asks for it. -/
theorem Expr.parse_quote {l : Label} (h : Label.wellEscaped l = true) :
    Expr.parse l.quote = .ok (.leaf l) :=
  parse_of_label (Token.Spells.token (.quoted h)).list_eq

namespace Check
variable {l : Label} {strict : Bool}

lemma byHolding_quote (h : Label.wellEscaped l = true) (held : Label → Bool) :
    (byHolding held l.quote).value = .ok (held l) := by
  rw [byHolding_value, Expr.parse_quote h]
  exact congrArg Except.ok (Expr.truth_leaf held l)

/-- Who asks for a single label between quotes is granted access for holding it. -/
lemma byCredentials_quote_eq_true_iff (h : Label.wellEscaped l = true) {credentials : Text} :
    (byCredentials strict l.quote credentials).value = .ok true ↔
      ∃ S, Credentials.read strict credentials = .ok S ∧ S.holds l = true := by
  cases hr : Credentials.read strict credentials with
  | error r =>
    rw [byCredentials, hr]
    constructor
    · intro h
      contradiction
    · rintro ⟨_, hread, _⟩
      contradiction
  | ok S =>
    rw [byCredentials_of_read hr, byHolding_quote h]
    simp

lemma byCredentials_quote_of_comma_mem (h : Label.wellEscaped l = true) (hc : ',' ∈ l)
    (credentials : Text) : (byCredentials strict l.quote credentials).value ≠ .ok true := by
  intro htrue
  obtain ⟨S, hr, hheld⟩ := (byCredentials_quote_eq_true_iff h).mp htrue
  rw [Credentials.holds_of_comma_mem hr hc] at hheld
  contradiction

/-- Labels without commas are held as they are if they are listed between quotes, whatever blanks,
quotes and backslashes are in them. A label between quotes, taken for an expression and for
credentials, grants access just when it has no comma; one that has a comma is held by nobody, so no
credentials grant access to who asks for it. -/
theorem byCredentials_quote {held : List Label} (hn : held ≠ []) (hc : ∀ k ∈ held, ',' ∉ k)
    (hl : Label.wellEscaped l = true) (strict : Bool) :
    (∃ S, Credentials.read strict (Credentials.listing held) = .ok S ∧ S.Nodup ∧
      ∀ k, S.holds k = true ↔ k ∈ held) ∧
    ((byCredentials strict l.quote l.quote).value = .ok true ↔ ',' ∉ l) ∧
    (',' ∈ l → ∀ credentials,
      (byCredentials false l.quote credentials).value = .ok false ∧
      (byCredentials strict l.quote credentials).value ≠ .ok true) ∧
    ∀ credentials S k, Credentials.read strict credentials = .ok S → ',' ∈ k →
      S.holds k = false := by
  refine ⟨⟨_, Credentials.read_listing strict hn hc, LabelSet.nodup_eraseDups held, ?_⟩, ?_, ?_,
    fun _ _ _ hr => Credentials.holds_of_comma_mem hr⟩
  · intro k
    rw [LabelSet.holds_eraseDups, decide_eq_true_iff]
  · constructor
    · intro htrue hcomma
      exact byCredentials_quote_of_comma_mem hl hcomma _ htrue
    · intro hcomma
      have hread : Credentials.read strict l.quote = .ok [l].eraseDups :=
        Credentials.read_listing strict (List.cons_ne_nil l []) (by simpa using hcomma)
      refine (byCredentials_quote_eq_true_iff hl).mpr ⟨_, hread, ?_⟩
      simp [LabelSet.holds_eraseDups]
  · intro hcomma credentials
    refine ⟨?_, byCredentials_quote_of_comma_mem hl hcomma credentials⟩
    rw [byCredentials_default, byHolding_quote hl]
    exact congrArg Except.ok (Credentials.holds_of_comma_mem (Credentials.read_default _) hcomma)

/-- Labels of which some start or end with quotes or blanks, one of them with an escaped quote, and
one with a comma between blanks. -/
theorem byCredentials_quote_blank :
    let held : List Label := [['"', ' '], [], ['\u00a0', '"'], ['\\'], []]
    let l : Label := [' ', '\\', '"']
    let k : Label := [' ', ',', ' ']
    (held ≠ [] ∧ (∀ k ∈ held, ',' ∉ k) ∧ Label.wellEscaped l = true ∧
      Label.wellEscaped k = true ∧ ',' ∈ k) ∧
    (∃ S, Credentials.read true (Credentials.listing held) = .ok S ∧ S.Nodup ∧
      ∀ k, S.holds k = true ↔ k ∈ held) ∧
    (byCredentials true l.quote l.quote).value = .ok true ∧
    (byCredentials false k.quote k.quote).value = .ok false ∧
    (byCredentials true k.quote k.quote).value ≠ .ok true := by
  intro held l k
  have hn : held ≠ [] := by decide
  have hc : ∀ k ∈ held, ',' ∉ k := by decide
  have hl : Label.wellEscaped l = true := by decide
  have hk : Label.wellEscaped k = true := by decide
  have hcomma : ',' ∈ k := by decide
  obtain ⟨hread, hsame, _⟩ := byCredentials_quote hn hc hl true
  obtain ⟨_, _, hnone, _⟩ := byCredentials_quote hn hc hk true
  obtain ⟨hdefault, hstrict⟩ := hnone hcomma k.quote
  exact ⟨⟨hn, hc, hl, hk, hcomma⟩, hread, hsame.mpr (by decide), hdefault, hstrict⟩

end Check

end Clearance
