import Clearance.Proofs.Branching
import Clearance.Proofs.EntryPoints
import Clearance.Proofs.Escaping
import Clearance.Proofs.Expressible

/-! What is printed for a parsed expression: its text over a line for each node of it. Labels are
shown as they are, unless they end in a backslash or have one directly before a bracket that opens
no tag. -/
namespace Clearance

namespace Alphabet

lemma le_of_isPrintable {c : Char} (h : isPrintable c = true) : 0x20 ≤ c.toNat := by
  have hcontrols : ∀ n < 0x20, printables.holds n = false := by decide
  by_contra hlt
  rw [isPrintable, hcontrols _ (Nat.lt_of_not_le hlt)] at h
  contradiction

end Alphabet

namespace Text

def Printable (s : Text) : Prop := ∀ c ∈ s, Alphabet.isPrintable c = true

instance (s : Text) : Decidable s.Printable :=
  decidable_of_iff (s.all Alphabet.isPrintable = true) List.all_eq_true

lemma Printable.not_mem {s : Text} {c : Char} (h : s.Printable) (hc : c.toNat < 0x20) : c ∉ s := by
  intro hm
  have := Alphabet.le_of_isPrintable (h c hm)
  omega

/-- Texts that have a property have it when they are put together. -/
structure Closed (P : Text → Prop) : Prop where
  nil : P []
  append : ∀ {s t : Text}, P s → P t → P (s ++ t)

lemma Closed.flatMap {P : Text → Prop} (hP : Closed P) {α : Type} {f : α → Text} {as : List α}
    (h : ∀ a ∈ as, P (f a)) : P (as.flatMap f) := by
  induction as with
  | nil => exact hP.nil
  | cons a as ih =>
    obtain ⟨hfirst, hrest⟩ := List.forall_mem_cons.mp h
    exact hP.append hfirst (ih hrest)

lemma Closed.join {P : Text → Prop} (hP : Closed P) {sep : Text} (hsep : P sep)
    {pieces : List Text} (h : ∀ s ∈ pieces, P s) : P (join sep pieces) := by
  cases pieces with
  | nil => exact hP.nil
  | cons s pieces =>
    obtain ⟨hfirst, hrest⟩ := List.forall_mem_cons.mp h
    rw [join_cons]
    exact hP.append hfirst (hP.flatMap fun t ht => hP.append hsep (hrest t ht))

lemma closed_printable : Closed Printable :=
  ⟨nofun, fun hs ht => List.forall_mem_append.mpr ⟨hs, ht⟩⟩

end Text

namespace Label

/-- A label of characters that are displayed as themselves. Colons are left out, for the name of a
picture may stand between them. -/
def Showable (l : Label) : Prop := ∀ c ∈ l, Alphabet.isPrintable c = true ∧ c ≠ ':'

instance (l : Label) : Decidable (Showable l) :=
  decidable_of_iff (l.all (fun c => Alphabet.isPrintable c && c != ':') = true) (by
    simp [Showable])

lemma Showable.printable {l : Label} (h : Showable l) : Text.Printable l := fun c hc => (h c hc).1

end Label

namespace Tree
variable {α : Type}

mutual
/-- All that is in a tree, from the top down, and the tree itself first. -/
def nodes : Tree α → List (Tree α)
  | leaf a => [leaf a]
  | group op first second rest =>
    group op first second rest :: (first.nodes ++ second.nodes ++ nodesAll rest)

def nodesAll : List (Tree α) → List (Tree α)
  | [] => []
  | t :: ts => t.nodes ++ nodesAll ts
end

@[simp] theorem nodesAll_eq (ts : List (Tree α)) : nodesAll ts = ts.flatMap nodes := by
  induction ts with
  | nil => rfl
  | cons t ts ih => simp [nodesAll, ih]

lemma nodes_eq (t : Tree α) : t.nodes = t :: t.children.flatMap nodes := by
  cases t <;> simp [nodes]

end Tree

namespace Display

namespace Outline

/-- A line without its guides and the lead after them. -/
def unguided : Text → Text
  | a :: b :: c :: d :: rest =>
    if [a, b, c, d] = guide true ∨ [a, b, c, d] = guide false then unguided rest
    else if [a, b, c, d] = lead true ∨ [a, b, c, d] = lead false then rest
    else a :: b :: c :: d :: rest
  | s => s

@[simp] theorem unguided_guide (last : Bool) (s : Text) :
    unguided (guide last ++ s) = unguided s := by
  cases last <;> rfl

@[simp] theorem unguided_lead (last : Bool) (s : Text) : unguided (lead last ++ s) = s := by
  cases last <;> rfl

/-- Guided lines and what they say, one for one. -/
structure Listed (lines captions : List Text) : Prop where
  unguided : lines.map unguided = captions
  single : ∀ line ∈ lines, '\n' ∉ line

variable {lines lines' captions captions' : List Text} {caption : Text}

lemma Listed.append (h : Listed lines captions) (h' : Listed lines' captions') :
    Listed (lines ++ lines') (captions ++ captions') where
  unguided := by rw [List.map_append, h.unguided, h'.unguided]
  single := List.forall_mem_append.mpr ⟨h.single, h'.single⟩

lemma Listed.hang (h : Listed lines captions) (hc : '\n' ∉ caption) (last : Bool) :
    Listed (hang (lead last) (guide last) (caption :: lines)) (caption :: captions) where
  unguided := by
    have hlines : lines.map (Outline.unguided ∘ (guide last ++ ·)) = captions := by
      rw [← h.unguided]
      exact List.map_congr_left fun line _ => unguided_guide last line
    rw [Outline.hang, List.map_cons, unguided_lead, List.map_map, hlines]
  single := by
    have hfirst : '\n' ∉ lead last := by cases last <;> decide
    have hothers : '\n' ∉ guide last := by cases last <;> decide
    rw [Outline.hang, List.forall_mem_cons, List.forall_mem_map]
    refine ⟨by simp [hfirst, hc], fun line hl => ?_⟩
    simp [hothers, h.single line hl]

end Outline

end Display

namespace Label
open Display

/-- Of a well escaped label an even number of backslashes is left at its end, for each belongs to a
pair. -/
lemma exists_slashes_of_wellEscaped {l : Label} (h : wellEscaped l = true) :
    ∃ t k, l = t ++ Markup.slashes (2 * k) ∧ t.getLast? ≠ some Markup.slash := by
  fun_induction wellEscaped l with
  | case1 => exact ⟨[], 0, rfl, by simp⟩
  | case2 => contradiction
  | case3 rest ih =>
    obtain ⟨t, k, rfl, ht⟩ := ih h
    have hpair : ['\\', '"'].getLast? ≠ some Markup.slash := by decide
    exact ⟨['\\', '"'] ++ t, k, rfl, Markup.getLast?_append_ne hpair ht⟩
  | case4 rest ih =>
    obtain ⟨t, k, rfl, ht⟩ := ih h
    cases t with
    | nil => exact ⟨[], k + 1, rfl, by simp⟩
    | cons c t =>
      refine ⟨'\\' :: '\\' :: c :: t, k, rfl, ?_⟩
      rwa [List.getLast?_cons_cons, List.getLast?_cons_cons]
  | case5 => contradiction
  | case6 c rest _ _ _ hc ih =>
    obtain ⟨t, k, rfl, ht⟩ := ih h
    have hlast : [c].getLast? ≠ some Markup.slash := fun hs => hc (Option.some.inj hs)
    exact ⟨[c] ++ t, k, rfl, Markup.getLast?_append_ne hlast ht⟩

lemma even_trail {l : Label} (h : wellEscaped l = true) : Markup.trail l % 2 = 0 := by
  obtain ⟨t, k, rfl, ht⟩ := exists_slashes_of_wellEscaped h
  rw [Markup.trail_append_slashes ht]
  omega

end Label

namespace Display

lemma Markup.isTag_of_eq {s : Text} (h : tag? s = some (s, [])) : IsTag s :=
  (tag?_eq_some_iff.mp h).1

lemma Markup.printable_faded {s : Text} (h : s.Printable) : Text.Printable (faded s) :=
  fun c hc => h c ((faded_sublist s).subset hc)

/-- A printable text between tags is shown on a line of its own. -/
lemma Outline.labelLines_styled {style : String} {s : Text}
    (hopen : Markup.IsTag ("[" ++ style ++ "]").toList)
    (hclose : Markup.IsTag ("[/" ++ style ++ "]").toList) (heven : Markup.trail s % 2 = 0)
    (hs : s.Printable) : labelLines (Markup.styled style s) = [Markup.faded s] := by
  have hsilent : ∀ c ∈ s, Markup.isSilent c = false := by
    intro c hc
    have := Alphabet.le_of_isPrintable (hs c hc)
    simp only [Markup.isSilent, Bool.or_eq_false_iff, beq_eq_false_iff_ne]
    omega
  have hnewline : '\n' ∉ Markup.faded s := (Markup.printable_faded hs).not_mem (by decide)
  have htab : '\t' ∉ Markup.faded s := (Markup.printable_faded hs).not_mem (by decide)
  rw [labelLines, Markup.render_styled hopen hclose heven hsilent, Line.ofText,
    Text.splitOn_of_not_mem hnewline, List.map_singleton, Line.expandTabs,
    Text.splitOn_of_not_mem htab]
  rfl

end Display

namespace Expr
open Display

/-- What the line of a node says, guides apart. -/
def caption : Expr → Text
  | .leaf l => Markup.faded l
  | .group op .. => op.capitals.toList

/-- Labels as they are to be for each to have a line of its own. -/
def Lined (e : Expr) : Prop := ∀ l ∈ e.leaves, Text.Printable l ∧ Markup.trail l % 2 = 0

lemma lined_group_iff {op : Connective} {s t : Expr} {rest : List Expr} :
    Lined (.group op s t rest) ↔ ∀ e ∈ s :: t :: rest, Lined e := by
  simp only [Lined, Tree.leaves_group, List.mem_flatMap]
  grind

lemma labelLines_outlineLabel {e : Expr} (h : e.Lined) :
    Outline.labelLines e.outlineLabel = [e.caption] := by
  cases e with
  | leaf l =>
    obtain ⟨hprintable, heven⟩ := h l (by simp [Tree.leaves])
    exact Outline.labelLines_styled (Markup.isTag_of_eq (by decide))
      (Markup.isTag_of_eq (by decide)) heven hprintable
  | group op first second rest =>
    have hcapitals : Text.Printable op.capitals.toList ∧ Markup.trail op.capitals.toList % 2 = 0 ∧
        Markup.faded op.capitals.toList = op.capitals.toList := by
      cases op <;> decide
    obtain ⟨hprintable, heven, hfaded⟩ := hcapitals
    rw [caption, ← hfaded]
    exact Outline.labelLines_styled (Markup.isTag_of_eq (by decide))
      (Markup.isTag_of_eq (by decide)) heven hprintable

lemma newline_not_mem_caption {e : Expr} (h : e.Lined) : '\n' ∉ e.caption := by
  cases e with
  | leaf l =>
    have hprintable := Markup.printable_faded (h l (by simp [Tree.leaves])).1
    exact hprintable.not_mem (by decide)
  | group op first second rest =>
    have hcapitals : '\n' ∉ op.capitals.toList := by cases op <;> decide
    exact hcapitals

lemma lines_drawing (e : Expr) : e.drawing.lines =
    Outline.labelLines e.outlineLabel ++ Outline.branchLines (e.children.map drawing) := by
  rw [drawing_eq, Outline.lines]

/-- The lines of a drawing after the first, guided by those of the branches above them. -/
def linesBelow (e : Expr) : List Text := Outline.branchLines (e.children.map drawing)

lemma listed_branchLines {es : List Expr} (hl : ∀ e ∈ es, Lined e)
    (h : ∀ e ∈ es, Outline.Listed e.linesBelow ((e.children.flatMap Tree.nodes).map caption)) :
    Outline.Listed (Outline.branchLines (es.map drawing))
      ((es.flatMap Tree.nodes).map caption) := by
  induction es with
  | nil => exact ⟨rfl, nofun⟩
  | cons e es ih =>
    obtain ⟨hlfirst, hlrest⟩ := List.forall_mem_cons.mp hl
    obtain ⟨hfirst, hrest⟩ := List.forall_mem_cons.mp h
    have hlines : e.drawing.lines = e.caption :: e.linesBelow := by
      rw [lines_drawing, labelLines_outlineLabel hlfirst]
      rfl
    rw [List.map_cons, Outline.branchLines, hlines, List.flatMap_cons, Tree.nodes_eq,
      List.map_append, List.map_cons]
    exact (hfirst.hang (newline_not_mem_caption hlfirst) _).append (ih hlrest hrest)

/-- Below its first line, a drawing has a line for each node under it. -/
theorem listed_linesBelow {e : Expr} (h : e.Lined) :
    Outline.Listed e.linesBelow ((e.children.flatMap Tree.nodes).map caption) := by
  induction e using Tree.induction with
  | leaf l => exact ⟨rfl, nofun⟩
  | group op first second rest ih =>
    have hall := lined_group_iff.mp h
    exact listed_branchLines hall fun e he => ih e he (hall e he)

section Closed
variable {P : Text → Prop} {e : Expr}

lemma piece_of_closed (hP : Text.Closed P) (hopen : P ['(']) (hclose : P [')'])
    (hspelling : ∀ op : Connective, P op.spelling) (h : ∀ l ∈ e.leaves, P (Label.render l)) :
    P e.piece := by
  induction e using Tree.induction with
  | leaf l =>
    rw [piece_leaf]
    exact h l (by simp [Tree.leaves])
  | group op first second rest ih =>
    rw [Tree.leaves_group] at h
    have hpieces : P (Text.join op.spelling ((first :: second :: rest).map piece)) := by
      refine hP.join (hspelling op) (List.forall_mem_map.mpr fun e he => ih e he fun l hl => ?_)
      exact h l (List.mem_flatMap.mpr ⟨e, he, hl⟩)
    rw [piece_group]
    exact hP.append (hP.append hopen hpieces) hclose

/-- What holds of the texts of its labels and of all that is written between them holds of the text
of an expression. -/
theorem render_of_closed (hP : Text.Closed P) (hopen : P ['(']) (hclose : P [')'])
    (hspelling : ∀ op : Connective, P op.spelling) (h : ∀ l ∈ e.leaves, P (Label.render l)) :
    P e.render := by
  rw [render_eq_text]
  cases e with
  | leaf l => exact h l (by simp [Tree.leaves])
  | group op first second rest =>
    rw [Tree.leaves_group] at h
    refine hP.join (hspelling op) (List.forall_mem_map.mpr fun e he => ?_)
    refine piece_of_closed hP hopen hclose hspelling fun l hl => ?_
    exact h l (List.mem_flatMap.mpr ⟨e, he, hl⟩)

end Closed

end Expr

namespace Label
open Display
variable {l : Label}

lemma printable_render (h : Text.Printable l) : Text.Printable (render l) := by
  have hquote : Alphabet.isPrintable '"' = true := by decide
  unfold render
  split
  · exact h
  · rw [List.cons_append, Text.Printable, List.forall_mem_cons, List.forall_mem_append]
    exact ⟨hquote, h, by simpa using hquote⟩

lemma slash_not_mem_of_identifiers (h : l.all Alphabet.isIdentifier = true) :
    Markup.slash ∉ l := by
  intro hm
  exact Alphabet.not_mem_marks (List.all_eq_true.mp h _ hm) (by decide)

/-- The text of a label ends in a quote if it holds a backslash. -/
lemma getLast?_render (l : Label) : (render l).getLast? ≠ some Markup.slash := by
  unfold render
  split
  · rename_i h
    exact fun hl => slash_not_mem_of_identifiers h.2 (List.mem_of_getLast? hl)
  · rw [List.getLast?_concat]
    decide

lemma verbatim_render (h : Markup.Verbatim l) : Markup.Verbatim (render l) := by
  refine ⟨?_, getLast?_render l⟩
  unfold render
  split
  · exact h.opens
  · have hquote : Markup.Opens ['"'] := Markup.opens_of_not_mem (by decide)
    exact hquote.append (h.opens.append hquote (.inl h.ends)) (.inl (by decide))

end Label

namespace Display.Markup

lemma closed_ends : Text.Closed fun s => s.getLast? ≠ some slash :=
  ⟨nofun, getLast?_append_ne⟩

lemma closed_verbatim : Text.Closed Verbatim :=
  ⟨⟨opens_of_not_mem nofun, nofun⟩, fun hs ht =>
    ⟨hs.opens.append ht.opens (.inl hs.ends), getLast?_append_ne hs.ends ht.ends⟩⟩

lemma verbatim_of_not_mem {s : Text} (h : slash ∉ s) : Verbatim s :=
  ⟨opens_of_not_mem h, fun hs => h (List.mem_of_getLast? hs)⟩

end Display.Markup

namespace Expr
open Display
variable {e : Expr}

lemma printable_render (h : ∀ l ∈ e.leaves, Text.Printable l) : Text.Printable e.render :=
  render_of_closed Text.closed_printable (by decide) (by decide)
    (fun op => by cases op <;> decide) fun l hl => Label.printable_render (h l hl)

/-- No heading ends in a backslash. -/
lemma getLast?_render (e : Expr) : e.render.getLast? ≠ some Markup.slash :=
  render_of_closed Markup.closed_ends (by decide) (by decide)
    (fun op => by cases op <;> decide) fun l _ => Label.getLast?_render l

lemma even_trail_render (e : Expr) : Markup.trail e.render % 2 = 0 := by
  rw [Markup.trail_eq_zero_iff.mpr (getLast?_render e)]

/-- A text of labels that are shown as they are is so as well. -/
lemma verbatim_render (h : ∀ l ∈ e.leaves, Markup.Verbatim l) : Markup.Verbatim e.render := by
  have hmark {s : Text} (hs : Markup.slash ∉ s) := Markup.verbatim_of_not_mem hs
  exact render_of_closed Markup.closed_verbatim (hmark (by decide)) (hmark (by decide))
    (fun op => hmark (by cases op <;> decide)) fun l hl => Label.verbatim_render (h l hl)

/-- An expression is drawn as its text over one line for each node. -/
theorem listed_outline {e : Expr} (h : e.Lined) : ∃ below,
    (e.outline e.render).lines = Markup.faded e.render :: below ∧
      '\n' ∉ Markup.faded e.render ∧ Outline.Listed below (e.nodes.map caption) := by
  have hprintable : Text.Printable e.render := printable_render fun l hl => (h l hl).1
  have hheading : Outline.labelLines (Markup.styled "bold" e.render) = [Markup.faded e.render] :=
    Outline.labelLines_styled (Markup.isTag_of_eq (by decide)) (Markup.isTag_of_eq (by decide))
      (even_trail_render e) hprintable
  have hlisted : Outline.Listed (Outline.branchLines ([e].map drawing))
      (([e].flatMap Tree.nodes).map caption) :=
    listed_branchLines (by simpa using h) (by simpa using listed_linesBelow h)
  refine ⟨Outline.branchLines [e.drawing], ?_, ?_, by simpa using hlisted⟩
  · rw [outline, branches_eq_drawing, Outline.lines, hheading]
    rfl
  · exact (Markup.printable_faded hprintable).not_mem (by decide)

end Expr

namespace Command
open Display
variable {env : Environment} {words : List Text} {front : Front} {log : Log} {source : Text}
  {e : Expr}

lemma Reaches.text_parse (h : Reaches env words front log (.parse source false))
    (hparse : Expr.parse source = .ok e) (files : Path → Config.Source) :
    (run files env words).answer.text = (e.outline e.render).draw := by
  have hanswer : (perform files env front log (.parse source false)).answer =
      .outline (e.outline e.render) := by simp [perform, parsed, hparse]
  rw [h.run_eq, hanswer]
  rfl

/-- What is printed for an expression with showable labels: a heading, and below it a line for each
node from the top down. Guides apart, a group's line says its connective. The heading is the text of
the expression, and the line of a leaf is its label, but for the backslashes that the markup takes:
half of those at the end, and the one directly before a bracket that opens no tag. So a label is
shown as it is just when it neither ends in a backslash nor has such a bracket, and the heading is
if all labels are. -/
theorem lines_of_parse (files : Path → Config.Source)
    (hreach : Reaches env words front log (.parse source false))
    (hparse : Expr.parse source = .ok e) (hlabels : ∀ l ∈ e.leaves, Label.Showable l) :
    (∃ below, Text.splitOn '\n' (run files env words).answer.text =
        Markup.faded e.render :: below ++ [[]] ∧
      below.map Outline.unguided = e.nodes.map Expr.caption) ∧
    (∀ l ∈ e.leaves, Markup.faded l = l ↔ Markup.Verbatim l) ∧
    (Markup.faded e.render = e.render ↔ Markup.Verbatim e.render) ∧
    ((∀ l ∈ e.leaves, Markup.Verbatim l) → Markup.Verbatim e.render) := by
  have heven : ∀ l ∈ e.leaves, Markup.trail l % 2 = 0 := fun l hl =>
    Label.even_trail (Expr.wellEscaped_of_parse hparse l hl)
  have hlined : e.Lined := fun l hl => ⟨(hlabels l hl).printable, heven l hl⟩
  refine ⟨?_, fun l hl => Markup.faded_eq_self_iff (heven l hl),
    Markup.faded_eq_self_iff (Expr.even_trail_render e), Expr.verbatim_render⟩
  obtain ⟨below, hlines, hheading, hlisted⟩ := Expr.listed_outline hlined
  refine ⟨below, ?_, hlisted.unguided⟩
  have hsingle : ∀ line ∈ Markup.faded e.render :: below, '\n' ∉ line :=
    List.forall_mem_cons.mpr ⟨hheading, hlisted.single⟩
  rw [hreach.text_parse hparse, Outline.draw, hlines]
  exact Text.splitOn_flatMap hsingle

/-- Of three labels only the one with a tag in it is shown as it is. -/
theorem lines_of_parse_mixed :
    let source := "\"a\\\\\" & (\"[b]\" | \"\\\\[1]\")".toList
    let e : Expr := .group .and (.group .or (.leaf "[b]".toList) (.leaf "\\\\[1]".toList) [])
      (.leaf "a\\\\".toList) []
    let words := ["parse".toList, source]
    Reaches [] words ⟨false, false, .parse, [source]⟩ ⟨20, false⟩ (.parse source false) ∧
      Expr.parse source = .ok e ∧ (∀ l ∈ e.leaves, Label.Showable l) ∧
      (∃ below, Text.splitOn '\n' (run (fun _ => .missing) [] words).answer.text =
          "(\"[b]\" | \"\\[1]\") & \"a\\\\\"".toList :: below ++ [[]] ∧
        below.map Outline.unguided =
          ["AND", "OR", "[b]", "\\[1]", "a\\"].map String.toList) ∧
      Markup.Verbatim "[b]".toList ∧ ¬ Markup.Verbatim "\\\\[1]".toList ∧
      ¬ Markup.Verbatim "a\\\\".toList ∧ ¬ Markup.Verbatim e.render := by
  intro source e words
  have hreach : Reaches [] words ⟨false, false, .parse, [source]⟩ ⟨20, false⟩
      (.parse source false) := ⟨rfl, rfl, rfl⟩
  have hparse : Expr.parse source = .ok e := by decide +kernel
  have hlabels : ∀ l ∈ e.leaves, Label.Showable l := by decide
  have hrender : e.render = "(\"[b]\" | \"\\\\[1]\") & \"a\\\\\"".toList := by decide +kernel
  obtain ⟨⟨below, htext, hbelow⟩, hleaves, hheading, _⟩ :=
    lines_of_parse (fun _ => .missing) hreach hparse hlabels
  have htag := (hleaves "[b]".toList (by decide)).mp (by decide)
  have hbracket := mt (hleaves "\\\\[1]".toList (by decide)).mpr (by decide)
  have hslashes := mt (hleaves "a\\\\".toList (by decide)).mpr (by decide)
  rw [hrender] at htext
  refine ⟨hreach, hparse, hlabels, ⟨below, htext, hbelow⟩, htag, hbracket, hslashes, ?_⟩
  rw [hrender] at hheading ⊢
  exact mt hheading.mpr (by decide)

/-- A label that ends in two backslashes is shown with one of them, under a heading with both. -/
theorem lines_of_parse_halved :
    let source := "\"a\\\\\"".toList
    let label := "a\\\\".toList
    let words := ["parse".toList, source]
    Reaches [] words ⟨false, false, .parse, [source]⟩ ⟨20, false⟩ (.parse source false) ∧
      Expr.parse source = .ok (.leaf label) ∧ Label.Showable label ∧
      Text.splitOn '\n' (run (fun _ => .missing) [] words).answer.text =
        [source, "└── a\\".toList, []] ∧
      Outline.unguided "└── a\\".toList ≠ label := by
  intro source label words
  exact ⟨⟨rfl, rfl, rfl⟩, by decide +kernel, by decide, by decide +kernel, by decide⟩

end Command

end Clearance
