import Clearance.Check
import Clearance.Proofs.Listing
import Clearance.Proofs.RoundTrip
import Clearance.Proofs.Truth

/-! Access from end to end: a written expression is checked against listed labels as the expression
itself is. -/
namespace Clearance

lemma LabelSet.holds_eraseDups (held : List Label) :
    LabelSet.holds held.eraseDups = fun l => decide (l ∈ held) := by
  funext l
  simp [holds]

namespace Check

/-- An accepted expression is decided on its tree, and both steps are recorded. -/
lemma byHolding_of_parse {source : Text} {e : Expr} (h : Expr.parse source = .ok e)
    (held : Label → Bool) : byHolding held source =
      ⟨.ok (e.evaluate held), [.parsed source, .decided source (e.evaluate held)]⟩ := by
  simp [byHolding, Expr.parseAudited, h, Audited.andThen]

/-- A refused expression is not decided, and that is all that is recorded. -/
lemma byHolding_of_refused {source : Text} {r : Refusal} (h : Expr.parse source = .error r)
    (held : Label → Bool) : byHolding held source = ⟨.error r, [.refused source r]⟩ := by
  simp [byHolding, Expr.parseAudited, h, Audited.andThen]

/-- Credentials are read the same way for one check and for many. -/
lemma byCredentials_of_read {strict : Bool} {credentials : Text} {labels : LabelSet}
    (h : Credentials.read strict credentials = .ok labels) (expression : Text) :
    byCredentials strict expression credentials = byHolding labels.holds expression := by
  rw [byCredentials, h]

/-- Whatever the labels are, checking the text of an expression against the labels of a caller
gives the truth of the expression for that caller, strict or not. -/
theorem byCredentials_render {e : Expr} (he : e.WellEscaped) {held : List Label}
    (hn : held ≠ []) (hc : ∀ l ∈ held, ',' ∉ l) (strict : Bool) :
    e.draft.render = .ok e.render ∧
      byCredentials strict e.render (Credentials.listing held) =
        ⟨.ok (Expr.truth (fun l => decide (l ∈ held)) e), [.parsed e.render,
          .decided e.render (Expr.truth (fun l => decide (l ∈ held)) e)]⟩ := by
  rw [Expr.render_eq_text, Draft.render_draft]
  refine ⟨rfl, ?_⟩
  rw [byCredentials, Credentials.read_listing strict hn hc]
  show byHolding (LabelSet.holds held.eraseDups) e.text = _
  rw [LabelSet.holds_eraseDups, byHolding_of_parse (Expr.parse_text he), Expr.evaluate_eq_truth,
    Expr.truth_canon]

/-- A label with a blank and an escaped quote, an operator for a label, and the empty one. -/
theorem byCredentials_render_escaped :
    let e : Expr := .group .and (.leaf ['x', ' ', '\\', '"'])
      (.group .or (.leaf ['&']) (.leaf ['y']) []) [.leaf []]
    let held : List Label := [[], ['&'], ['x', ' ', '\\', '"']]
    e.WellEscaped ∧ held ≠ [] ∧ (∀ l ∈ held, ',' ∉ l) ∧
      (byCredentials true e.render (Credentials.listing held)).value = .ok true := by
  intro e held
  have he : e.WellEscaped := by
    unfold Expr.WellEscaped
    decide
  have hn : held ≠ [] := by decide
  have hc : ∀ l ∈ held, ',' ∉ l := by decide
  obtain ⟨_, hcheck⟩ := byCredentials_render he hn hc true
  refine ⟨he, hn, hc, ?_⟩
  rw [hcheck]
  decide

end Check

end Clearance
