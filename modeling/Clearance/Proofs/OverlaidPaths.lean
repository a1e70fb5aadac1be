import Clearance.Proofs.Overlay
import Mathlib.Data.List.Basic

/-! What a document holds, path by path and key by key, once the environment is laid over it. A
mapping with a number stands at the end of many paths, and what is written into it is found on all
of them. -/
namespace Clearance

namespace Value
variable {ρ : Type} {entries entries' : List (Value ρ × Value ρ)} {key : Value ρ} {name : String}
  {names : List String} {v : Value ρ}

lemma sameKey_str_iff : key.sameKey (.str name) = true ↔ key = .str name := by
  cases key <;> simp [sameKey, number?]

lemma str_sameKey_iff : (str name : Value ρ).sameKey key = true ↔ key = .str name := by
  cases key with
  | str s =>
    simp only [sameKey, beq_iff_eq, str.injEq]
    exact eq_comm
  | _ => simp [sameKey, number?]

/-- The value of a key of any kind. -/
def get? (entries : List (Value ρ × Value ρ)) (key : Value ρ) : Option (Value ρ) :=
  (entries.find? fun e => e.1.sameKey key).map Prod.snd

lemma get?_str (entries : List (Value ρ × Value ρ)) (name : String) :
    get? entries (.str name) = find? entries name := by
  fun_induction find? entries name with
  | case1 => rfl
  | case2 w rest => simp [get?, sameKey]
  | case3 s w rest hs ih => simpa [get?, sameKey, hs] using ih
  | case4 e rest he ih =>
    have hne : ¬ e.1.sameKey (.str name) = true := by
      rw [sameKey_str_iff]
      intro hk
      exact he name e.2 (Prod.ext hk rfl)
    simpa [get?, hne] using ih

/-- A key that is put in place hides no other. -/
lemma get?_put_of_ne (hk : key ≠ .str name) (entries : List (Value ρ × Value ρ)) (v : Value ρ) :
    get? (put entries name v) key = get? entries key := by
  have hne : ¬ (str name).sameKey key = true := fun h => hk (str_sameKey_iff.mp h)
  fun_induction put entries name v with
  | case1 => simp [get?, hne]
  | case2 w rest => simp [get?, hne]
  | case3 s w rest hs ih =>
    simp only [get?, List.find?_cons] at ih ⊢
    cases (str s).sameKey key with
    | true => rfl
    | false => exact ih
  | case4 e rest he ih =>
    simp only [get?, List.find?_cons] at ih ⊢
    cases e.1.sameKey key with
    | true => rfl
    | false => exact ih

/-- A value that is there already changes nothing. -/
lemma put_of_find? (h : find? entries name = some v) : put entries name v = entries := by
  fun_induction put entries name v with
  | case1 => contradiction
  | case2 w rest => simpa [find?, eq_comm] using h
  | case3 s w rest hs ih =>
    rw [ih]
    simpa [find?, hs] using h
  | case4 e rest he ih =>
    rw [ih]
    rwa [find?] at h
    exact he

def keys (entries : List (Value ρ × Value ρ)) : List (Value ρ) := entries.map Prod.fst

/-- The names that are no keys yet, each once, in order. -/
def absent (entries : List (Value ρ × Value ρ)) (names : List String) : List (Value ρ) :=
  ((names.filter fun n => (find? entries n).isNone).eraseDups).map .str

lemma absent_singleton (entries : List (Value ρ × Value ρ)) (name : String) :
    absent entries [name] = if (find? entries name).isSome then [] else [.str name] := by
  unfold absent
  cases hf : find? entries name <;> simp [hf, List.eraseDups_cons]

lemma keys_put (entries : List (Value ρ × Value ρ)) (name : String) (v : Value ρ) :
    keys (put entries name v) = keys entries ++ absent entries [name] := by
  rw [absent_singleton]
  unfold keys
  fun_induction put entries name v with
  | case1 => rfl
  | case2 w rest => simp [find?]
  | case3 s w rest hs ih => simpa [find?, hs] using ih
  | case4 e rest he ih =>
    have hf : find? (e :: rest) name = find? rest name := by
      rw [find?]
      exact he
    simpa [hf] using ih

/-- The first of some names is a key once it has been put in place, whatever its value. -/
lemma absent_cons (entries : List (Value ρ × Value ρ)) (name : String) (names : List String)
    (v : Value ρ) : absent entries (name :: names) =
      absent entries [name] ++ absent (put entries name v) names := by
  have hput (n : String) : (find? (put entries name v) n).isNone =
      (!n == name && (find? entries n).isNone) := by
    by_cases hn : n = name
    · simp [hn]
    · simp [find?_put_of_ne entries v hn, hn]
  unfold absent
  simp only [hput, List.filter_cons, List.filter_nil]
  cases hf : find? entries name with
  | none =>
    simp [List.eraseDups_cons, List.filter_filter]
  | some w =>
    have hall : ∀ n ∈ names,
        (!n == name && (find? entries n).isNone) = (find? entries n).isNone := by
      intro n _
      by_cases hn : n = name
      · simp [hn, hf]
      · simp [hn]
    simp [List.filter_congr hall]

/-- Some names have been put into a mapping, and nothing else has been done to it. -/
structure Gained (names : List String) (entries entries' : List (Value ρ × Value ρ)) : Prop where
  keys_eq : keys entries' = keys entries ++ absent entries names
  get?_eq : ∀ key, (∀ name ∈ names, key ≠ .str name) → get? entries' key = get? entries key

lemma Gained.refl (entries : List (Value ρ × Value ρ)) : Gained [] entries entries :=
  ⟨by simp [absent], fun _ _ => rfl⟩

lemma Gained.cons (h : Gained names (put entries name v) entries') :
    Gained (name :: names) entries entries' := by
  refine ⟨?_, ?_⟩
  · rw [h.keys_eq, keys_put, List.append_assoc, ← absent_cons]
  · intro key hkey
    obtain ⟨hname, hrest⟩ := List.forall_mem_cons.mp hkey
    rw [h.get?_eq key hrest, get?_put_of_ne hname]

lemma Gained.find?_eq (h : Gained names entries entries') (hn : name ∉ names) :
    find? entries' name = find? entries name := by
  rw [← get?_str, ← get?_str, h.get?_eq]
  rintro n hmem heq
  exact hn (str.inj heq ▸ hmem)

end Value

namespace Config
open Value (keys absent get? Gained)

/-- One step on a path: to the value of a key, or to an item of a list. -/
inductive Turn
  | key (k : Item)
  | item (i : Nat)

def Turn.named (name : String) : Turn := .key (.str name)

/-- A path is clear of a key in the mapping at some place if it neither ends at the place nor goes
on from there to the key. -/
def Clear (path place : List Turn) (key : String) : Prop :=
  path ≠ place ∧ ¬ place ++ [.named key] <+: path

lemma clear_append_iff {p path place : List Turn} {key : String} :
    Clear (p ++ path) (p ++ place) key ↔ Clear path place key := by
  rw [Clear, Clear, List.append_assoc, List.prefix_append_right_inj, ne_eq,
    List.append_cancel_left_eq]

namespace Document
variable {v : Item}

/-- The mapping at the top, where all paths start. -/
def root : Item := .shared 0

def turn? (doc : Document) : Turn → Item → Option Item
  | .key k, v => (doc.entries? v).bind fun entries => get? entries k
  | .item i, .list items | .item i, .tuple items => items[i]?
  | .item _, _ => none

/-- What stands at the end of a path. -/
def at? (doc : Document) : List Turn → Item → Option Item
  | [], v => some v
  | t :: path, v => (doc.turn? t v).bind (doc.at? path)

lemma at?_append (doc : Document) (p q : List Turn) (v : Item) :
    doc.at? (p ++ q) v = (doc.at? p v).bind (doc.at? q) := by
  induction p generalizing v with
  | nil => rfl
  | cons t p ih =>
    show (doc.turn? t v).bind (doc.at? (p ++ q)) = ((doc.turn? t v).bind (doc.at? p)).bind _
    rw [Option.bind_assoc]
    exact congrArg _ (funext ih)

lemma at?_cons_cons (doc : Document) (t t' : Turn) (path : List Turn) (v : Item) :
    doc.at? (t :: t' :: path) v = ((doc.turn? t v).bind (doc.turn? t')).bind (doc.at? path) :=
  (Option.bind_assoc ..).symm

/-- Only in mappings with numbers can two documents be told apart. -/
lemma turn?_of_not_shared (h : ∀ n, v ≠ .shared n) (doc doc' : Document) (t : Turn) :
    doc'.turn? t v = doc.turn? t v := by
  cases v with
  | shared n => exact absurd rfl (h n)
  | _ => cases t <;> rfl

lemma turn?_named_root (doc : Document) (part : String) :
    doc.turn? (.named part) root = Value.find? doc.top part := Value.get?_str doc.top part

/-- By way of its section a path leads to a key. -/
lemma turn?_section (doc : Document) (part : String) (k : Item) :
    (doc.turn? (.named part) root).bind (doc.turn? (.key k)) = get? (doc.entriesAt part) k := by
  rw [turn?_named_root, entriesAt, section?]
  cases Value.find? doc.top part with
  | none => rfl
  | some v =>
    show (doc.entries? v).bind _ = get? ((doc.entries? v).getD []) k
    cases doc.entries? v with
    | none => rfl
    | some entries => rfl

end Document

namespace Override
variable {o : Override} {doc : Document} {n : Nat} {name : String}

/-- From some value a path leads to the section of a variable: to its name at the top, or to
another place where the same mapping stands. -/
def Leads (o : Override) (doc : Document) (v : Item) (path : List Turn) : Prop :=
  (∃ p, path = p ++ [.named o.part] ∧ doc.at? p v = some Document.root) ∨
    ∃ n, Value.find? doc.top o.part = some (.shared n) ∧ doc.at? path v = some (.shared n)

lemma Leads.append {v w : Item} {p q : List Turn} (h : o.Leads doc w q)
    (hw : doc.at? p v = some w) : o.Leads doc v (p ++ q) := by
  have hat (q : List Turn) : doc.at? (p ++ q) v = doc.at? q w := by
    rw [Document.at?_append, hw, Option.bind_some]
  obtain ⟨r, rfl, hr⟩ | ⟨n, hn, hr⟩ := h
  · exact .inl ⟨p ++ r, (List.append_assoc ..).symm, (hat r).trans hr⟩
  · exact .inr ⟨n, hn, (hat q).trans hr⟩

/-- The name that a variable puts into a mapping: its key if its section is that mapping, and the
name of the section at the top otherwise. -/
def nameIn? (doc : Document) (n : Nat) (o : Override) : Option String :=
  match Value.find? doc.top o.part with
  | some (.shared m) => if m = n then some o.key else none
  | _ => if n = 0 then some o.part else none

lemma nameIn?_of_shared {m : Nat} (h : Value.find? doc.top o.part = some (.shared m)) :
    o.nameIn? doc n = if m = n then some o.key else none := by rw [nameIn?, h]

lemma nameIn?_of_not_shared (h : ∀ m, Value.find? doc.top o.part ≠ some (.shared m)) :
    o.nameIn? doc n = if n = 0 then some o.part else none := by
  unfold nameIn?
  split
  · next hm => exact absurd hm (h _)
  · rfl

lemma nameIn?_eq_some (h : o.nameIn? doc n = some name) :
    (Value.find? doc.top o.part = some (.shared n) ∧ name = o.key) ∨
      (n = 0 ∧ name = o.part ∧ ∀ m, Value.find? doc.top o.part ≠ some (.shared m)) := by
  by_cases hs : ∃ m, Value.find? doc.top o.part = some (.shared m)
  · obtain ⟨m, hm⟩ := hs
    rw [nameIn?_of_shared hm] at h
    split at h
    · next heq => exact .inl ⟨heq ▸ hm, (Option.some.inj h).symm⟩
    · contradiction
  · rw [nameIn?_of_not_shared (not_exists.mp hs)] at h
    split at h
    · next heq => exact .inr ⟨heq, (Option.some.inj h).symm, not_exists.mp hs⟩
    · contradiction

end Override

section Apply
variable {o p : Override} {doc doc' : Document} {text part : String} {entries entries' : Entries}
  {n : Nat}

lemma Own.unique (h : Own doc part entries) (h' : Own doc part entries') : entries = entries' :=
  h.entriesAt.symm.trans h'.entriesAt

lemma Own.congr (h : Own doc part entries)
    (hf : Value.find? doc'.top part = Value.find? doc.top part) : Own doc' part entries := by
  cases h with
  | missing found => exact .missing (hf.trans found)
  | null found => exact .null (hf.trans found)
  | map found => exact .map (hf.trans found)

lemma Own.turn?_item (h : Own doc part entries) (i : Nat) :
    (doc.turn? (.named part) Document.root).bind (doc.turn? (.item i)) = none := by
  rw [Document.turn?_named_root]
  cases h with
  | missing found => rw [found]; rfl
  | null found => rw [found]; rfl
  | map found => rw [found]; rfl

/-- A section that can take a key stands in one place or has a number. -/
lemma own_or_shared (h : ∀ v, ¬ Rigid doc part v) :
    (∃ entries, Own doc part entries) ∨ ∃ n, Value.find? doc.top part = some (.shared n) := by
  cases hf : Value.find? doc.top part with
  | none => exact .inl ⟨_, .missing hf⟩
  | some v =>
    cases v with
    | null => exact .inl ⟨_, .null hf⟩
    | map entries => exact .inl ⟨_, .map hf⟩
    | shared n => exact .inr ⟨n, rfl⟩
    | _ => exact absurd ⟨hf, nofun, nofun, nofun⟩ (h _)

/-- A section that stands in one place takes the key there and stays on its own. -/
lemma own_part_of_apply (h : o.apply doc text = .ok doc') (hown : Own doc o.part entries) :
    Own doc' o.part (Value.put entries o.key (o.value text)) := by
  obtain ⟨entries', hown', rfl⟩ | ⟨n, hn, _⟩ := Override.apply_cases h
  · obtain rfl := hown.unique hown'
    exact .map (Value.find?_put_self ..)
  · exact absurd hn (hown.not_shared n)

lemma nameIn?_of_apply (h : o.apply doc text = .ok doc') (hk : p.part ≠ o.key) (n : Nat) :
    p.nameIn? doc' n = p.nameIn? doc n := by
  have hshared := shared_of_apply_iff h hk
  by_cases hs : ∃ m, Value.find? doc.top p.part = some (.shared m)
  · obtain ⟨m, hm⟩ := hs
    rw [Override.nameIn?_of_shared hm, Override.nameIn?_of_shared ((hshared m).mpr hm)]
  · have hnot := not_exists.mp hs
    rw [Override.nameIn?_of_not_shared hnot,
      Override.nameIn?_of_not_shared fun m hm => hnot m ((hshared m).mp hm)]

/-- A variable puts one name into one mapping, and leaves all others as they are. -/
lemma mapping_of_apply (h : o.apply doc text = .ok doc') (n : Nat) :
    (o.nameIn? doc n = none ∧ doc'.mapping n = doc.mapping n) ∨
    ∃ name v, o.nameIn? doc n = some name ∧
      doc'.mapping n = Value.put (doc.mapping n) name v := by
  obtain ⟨entries, hown, rfl⟩ | ⟨m, hm, rfl⟩ := Override.apply_cases h
  · rw [Override.nameIn?_of_not_shared hown.not_shared]
    cases n with
    | zero => exact .inr ⟨_, _, rfl, rfl⟩
    | succ n => exact .inl ⟨rfl, rfl⟩
  · rw [Override.nameIn?_of_shared hm]
    by_cases hn : m = n
    · subst hn
      exact .inr ⟨_, _, if_pos rfl, Document.mapping_setMapping_self ..⟩
    · exact .inl ⟨if_neg hn, Document.mapping_setMapping_of_ne doc (Ne.symm hn) _⟩

/-- A value that stands in its place already changes nothing. -/
lemma apply_eq_self (h : Value.find? (doc.entriesAt o.part) o.key = some (o.value text)) :
    o.apply doc text = .ok doc := by
  unfold Override.apply
  cases hf : Value.find? doc.top o.part with
  | none =>
    rw [(Own.missing hf).entriesAt] at h
    contradiction
  | some v =>
    cases v with
    | map entries =>
      rw [(Own.map hf).entriesAt] at h
      show Except.ok { doc with top := _ } = _
      rw [Value.put_of_find? h, Value.put_of_find? hf]
    | shared n =>
      rw [entriesAt_of_shared hf] at h
      show Except.ok (doc.setMapping n _) = _
      rw [Value.put_of_find? h, Document.setMapping_mapping]
    | _ =>
      rw [Document.entriesAt, section?_of_find? hf] at h
      contradiction

end Apply

section Overlay
variable {env : Environment} {os : List Override} {o : Override} {doc doc' : Document}
  {text part : String} {entries : Entries} {n : Nat}

lemma shared_of_overlayWith_iff (h : overlayWith env os doc = .ok doc')
    (hk : ∀ o ∈ os, part ≠ o.key) (n : Nat) :
    Value.find? doc'.top part = some (.shared n) ↔
      Value.find? doc.top part = some (.shared n) := by
  induction os generalizing doc with
  | nil => rw [Except.ok.inj h]
  | cons o os ih =>
    obtain ⟨hkey, hrest⟩ := List.forall_mem_cons.mp hk
    obtain ⟨_, _, hd⟩ | ⟨text, d, _, _, ha, hd⟩ := overlayWith_cons_eq_ok h
    · exact ih hd hrest
    · rw [ih hd hrest, shared_of_apply_iff ha hkey]

/-- A mapping with a number gains the names that the variables put into it. -/
theorem gained_mapping_of_overlayWith (h : overlayWith env os doc = .ok doc')
    (hos : Override.Distinct os) (n : Nat) :
    Gained ((inForce env os).filterMap (Override.nameIn? doc n)) (doc.mapping n)
      (doc'.mapping n) := by
  induction os generalizing doc with
  | nil =>
    rw [Except.ok.inj h]
    exact .refl _
  | cons o os ih =>
    obtain ⟨hf, _, hd⟩ | ⟨text, d, hf, _, ha, hd⟩ := overlayWith_cons_eq_ok h
    · rw [hf]
      exact ih hd hos.tail
    · have hsame : (inForce env os).filterMap (Override.nameIn? d n) =
          (inForce env os).filterMap (Override.nameIn? doc n) := by
        refine List.filterMap_congr fun p hp => nameIn?_of_apply ha ?_ n
        exact hos.parts p (.tail o (List.mem_of_mem_filter hp)) o List.mem_cons_self
      have hgained := ih hd hos.tail
      rw [hsame] at hgained
      rw [hf]
      obtain ⟨hnone, hmap⟩ | ⟨name, v, hsome, hmap⟩ := mapping_of_apply ha n
      · rw [List.filterMap_cons_none hnone, ← hmap]
        exact hgained
      · rw [List.filterMap_cons_some hsome]
        rw [hmap] at hgained
        exact hgained.cons

/-- A section that stands in one place gains the keys of its own variables. -/
theorem own_of_overlayWith (h : overlayWith env os doc = .ok doc') (hk : ∀ o ∈ os, part ≠ o.key)
    (hown : Own doc part entries) : ∃ entries', Own doc' part entries' ∧
      Gained (((inForce env os).filter fun o => o.part = part).map Override.key) entries
        entries' := by
  induction os generalizing doc entries with
  | nil => exact ⟨entries, Except.ok.inj h ▸ hown, .refl _⟩
  | cons o os ih =>
    obtain ⟨hkey, hrest⟩ := List.forall_mem_cons.mp hk
    obtain ⟨hf, _, hd⟩ | ⟨text, d, hf, _, ha, hd⟩ := overlayWith_cons_eq_ok h
    · rw [hf]
      exact ih hd hrest hown
    · rw [hf]
      by_cases hp : o.part = part
      · subst hp
        obtain ⟨entries', hown', hgained⟩ := ih hd hrest (own_part_of_apply ha hown)
        rw [List.filter_cons_of_pos (by simp)]
        exact ⟨entries', hown', hgained.cons⟩
      · rw [List.filter_cons_of_neg (by simpa using hp)]
        exact ih hd hrest
          (hown.congr (find?_of_apply ha (Ne.symm hp) fun hpart => absurd hpart hkey))

/-- A key that belongs to none of the variables keeps its value in the section. -/
lemma find?_entriesAt_of_overlayWith (h : overlayWith env os doc = .ok doc')
    (hpart : ∀ p ∈ os, part ≠ p.key) {key : String}
    (hkey : ∀ p ∈ os, key ≠ p.key ∧ key ≠ p.part) :
    Value.find? (doc'.entriesAt part) key = Value.find? (doc.entriesAt part) key := by
  induction os generalizing doc with
  | nil => rw [Except.ok.inj h]
  | cons o os ih =>
    obtain ⟨hp, hparts⟩ := List.forall_mem_cons.mp hpart
    obtain ⟨hk, hkeys⟩ := List.forall_mem_cons.mp hkey
    obtain ⟨_, _, hd⟩ | ⟨text, d, _, _, ha, hd⟩ := overlayWith_cons_eq_ok h
    · exact ih hd hparts hkeys
    · rw [ih hd hparts hkeys, find?_entriesAt_of_apply ha hp hk]

/-- A variable that is set has its value in its section, as no other has its key. -/
theorem find?_key_of_overlayWith (h : overlayWith env os doc = .ok doc')
    (hos : Override.Distinct os) (ho : o ∈ os) (he : env.find? o.variableName = some text) :
    Value.find? (doc'.entriesAt o.part) o.key = some (o.value text) := by
  induction os generalizing doc with
  | nil => contradiction
  | cons p os ih =>
    obtain ⟨_, hn, hd⟩ | ⟨text', d, _, he', ha, hd⟩ := overlayWith_cons_eq_ok h
    · obtain rfl | ho := List.mem_cons.mp ho
      · rw [hn] at he
        contradiction
      · exact ih hd hos.tail ho
    · obtain rfl | ho := List.mem_cons.mp ho
      · obtain rfl := Option.some.inj (he'.symm.trans he)
        have hown := hos.parts o List.mem_cons_self o List.mem_cons_self
        have hsection := section?_part_of_apply ha hown
        have hkept : Value.find? (doc'.entriesAt o.part) o.key =
            Value.find? (d.entriesAt o.part) o.key :=
          find?_entriesAt_of_overlayWith hd
            (fun p hp => hos.parts o List.mem_cons_self p (.tail o hp))
            (fun p hp => ⟨(List.pairwise_cons.mp hos.keys).1 p hp,
              Ne.symm (hos.parts p (.tail o hp) o List.mem_cons_self)⟩)
        rw [hkept, entriesAt_of_section? hsection, Value.find?_put_self]
      · exact ih hd hos.tail ho

/-- Where every variable that is set has its value already, nothing changes. -/
theorem overlayWith_eq_self (h : ∀ o ∈ os, ∀ text, env.find? o.variableName = some text →
    Value.find? (doc.entriesAt o.part) o.key = some (o.value text)) :
    overlayWith env os doc = .ok doc := by
  induction os with
  | nil => rfl
  | cons o os ih =>
    obtain ⟨hfirst, hrest⟩ := List.forall_mem_cons.mp h
    rw [overlayWith]
    cases he : env.find? o.variableName with
    | none => exact ih hrest
    | some text =>
      show o.apply doc text >>= overlayWith env os = _
      rw [apply_eq_self (hfirst text he)]
      exact ih hrest

lemma not_rigid_of_overlayWith (h : overlayWith env os doc = .ok doc')
    (hos : Override.Distinct os) (ho : o ∈ inForce env os) (v : Item) : ¬ Rigid doc o.part v := by
  intro hr
  obtain ⟨hmem, hset⟩ := List.mem_filter.mp ho
  obtain ⟨w, hw⟩ := exists_overlayWith_error hos hmem ⟨of_decide_eq_true hset, hr⟩
  cases hw.symm.trans h

/-- A turn leads where it led, unless it is one to a name that a variable puts in its place. -/
lemma turn?_of_overlayWith (h : overlayWith env os doc = .ok doc') (hos : Override.Distinct os)
    (t : Turn) (v : Item) : doc'.turn? t v = doc.turn? t v ∨
      ∃ o ∈ inForce env os, ∃ n name, v = .shared n ∧ o.nameIn? doc n = some name ∧
        t = .named name := by
  by_cases hv : ∃ n, v = .shared n
  · obtain ⟨n, rfl⟩ := hv
    cases t with
    | item i => exact .inl rfl
    | key k =>
      by_cases hk : ∀ name ∈ (inForce env os).filterMap (Override.nameIn? doc n), k ≠ .str name
      · exact .inl ((gained_mapping_of_overlayWith h hos n).get?_eq k hk)
      · push Not at hk
        obtain ⟨name, hname, rfl⟩ := hk
        obtain ⟨o, ho, heq⟩ := List.mem_filterMap.mp hname
        exact .inr ⟨o, ho, n, name, rfl, heq, rfl⟩
  · exact .inl (Document.turn?_of_not_shared (not_exists.mp hv) doc doc' t)

/-- What is clear of all that variables are written to stays as it was. The path is
followed turn by turn, and two turns at a time into a section that stands in one place. -/
theorem at?_of_overlayWith (h : overlayWith env os doc = .ok doc') (hos : Override.Distinct os) :
    ∀ (path : List Turn) (v : Item), (∀ o ∈ inForce env os, ∀ q, o.Leads doc v q →
      Clear path q o.key) → doc'.at? path v = doc.at? path v
  | [], _, _ => rfl
  | t :: path, v, hp => by
    obtain hturn | ⟨o, ho, n, name, rfl, hname, rfl⟩ := turn?_of_overlayWith h hos t v
    · rw [Document.at?, Document.at?, hturn]
      cases hw : doc.turn? t v with
      | none => rfl
      | some w =>
        refine at?_of_overlayWith h hos path w fun o ho q hq => ?_
        have hat : doc.at? [t] v = some w := by rw [Document.at?, hw]; rfl
        exact (clear_append_iff (p := [t])).mp (hp o ho _ (hq.append hat))
    · obtain ⟨hn, rfl⟩ | ⟨rfl, rfl, hnot⟩ := Override.nameIn?_eq_some hname
      · exact absurd ⟨path, rfl⟩ (hp o ho [] (.inr ⟨n, hn, rfl⟩)).2
      have hlead (p : Override) (hpart : p.part = o.part) :
          p.Leads doc Document.root [.named o.part] := .inl ⟨[], by rw [hpart]; rfl, rfl⟩
      match path with
      | [] => exact absurd rfl (hp o ho _ (hlead o rfl)).1
      | t :: path =>
        have hkeys : ∀ p ∈ os, o.part ≠ p.key :=
          fun p hp => hos.parts o (List.mem_of_mem_filter ho) p hp
        obtain ⟨entries, hown⟩ := (own_or_shared (not_rigid_of_overlayWith h hos ho)).resolve_right
          (not_exists.mpr hnot)
        obtain ⟨entries', hown', hgained⟩ := own_of_overlayWith h hkeys hown
        have hturn : (doc'.turn? (.named o.part) Document.root).bind (doc'.turn? t) =
            (doc.turn? (.named o.part) Document.root).bind (doc.turn? t) := by
          cases t with
          | item i => rw [hown.turn?_item, hown'.turn?_item]
          | key k =>
            rw [Document.turn?_section, Document.turn?_section, hown.entriesAt, hown'.entriesAt]
            refine hgained.get?_eq k ?_
            rintro name hname rfl
            obtain ⟨p, hp', rfl⟩ := List.mem_map.mp hname
            obtain ⟨hmem, hpart⟩ := List.mem_filter.mp hp'
            exact (hp p hmem _ (hlead p (of_decide_eq_true hpart))).2 ⟨path, rfl⟩
        show doc'.at? (.named o.part :: t :: path) Document.root =
          doc.at? (.named o.part :: t :: path) Document.root
        rw [Document.at?_cons_cons, Document.at?_cons_cons, hturn]
        cases hw : (doc.turn? (.named o.part) Document.root).bind (doc.turn? t) with
        | none => rfl
        | some w =>
          refine at?_of_overlayWith h hos path w fun p hmem q hq => ?_
          have hat : doc.at? [.named o.part, t] Document.root = some w := by
            rw [Document.at?_cons_cons, hw]
            rfl
          exact (clear_append_iff (p := [.named o.part, t])).mp (hp p hmem _ (hq.append hat))

end Overlay

/-- What the environment makes of a document. The value of a variable that is set is found wherever
its section stands, and a path that is clear of all these places leads to what it led to, which for
a mapping with a number is this number. Mappings and sections keep the order of their keys, and new
ones come last, in the order of the overrides. -/
structure Overlaid (env : Environment) (doc doc' : Document) : Prop where
  written : ∀ o ∈ overrides, ∀ text, env.find? o.variableName = some text →
    ∀ place, o.Leads doc' Document.root place →
      doc'.at? (place ++ [.named o.key]) Document.root = some (o.value text)
  kept : ∀ path, (∀ o ∈ inForce env overrides, ∀ place, o.Leads doc Document.root place →
    Clear path place o.key) → doc'.at? path Document.root = doc.at? path Document.root
  opened : ∀ part, Value.find? doc.top part = none ∨ Value.find? doc.top part = some .null →
    ((∃ entries, doc'.section? part = some (some entries)) ↔
      ∃ o ∈ inForce env overrides, o.part = part)
  mappings : ∀ n, keys (doc'.mapping n) = keys (doc.mapping n) ++
    absent (doc.mapping n) ((inForce env overrides).filterMap (Override.nameIn? doc n))
  sections : ∀ o ∈ inForce env overrides,
    (∀ n, Value.find? doc.top o.part ≠ some (.shared n)) →
      keys (doc'.entriesAt o.part) = keys (doc.entriesAt o.part) ++ absent (doc.entriesAt o.part)
        (((inForce env overrides).filter fun p => p.part = o.part).map Override.key)

section Overlay
variable {env : Environment} {o : Override} {doc doc' : Document} {part key : String} {v w : Item}
  {place : List Turn}

/-- Where a path leads to the section of a variable, it goes on to the keys of the section. -/
lemma Override.Leads.at?_append (h : o.Leads doc v place)
    (hw : Value.find? (doc.entriesAt o.part) key = some w) :
    doc.at? (place ++ [.named key]) v = some w := by
  rw [← Value.get?_str] at hw
  obtain ⟨p, rfl, hp⟩ | ⟨n, hn, hp⟩ := h
  · rw [List.append_assoc, Document.at?_append, hp]
    show doc.at? [.named o.part, .key (.str key)] Document.root = _
    rw [Document.at?_cons_cons, Document.turn?_section, hw]
    rfl
  · rw [entriesAt_of_shared hn] at hw
    rw [Document.at?_append, hp]
    show (get? (doc.mapping n) (.str key)).bind _ = _
    rw [hw]
    rfl

lemma exists_section?_of_find? (h : Value.find? (doc.entriesAt part) key = some v) :
    ∃ entries, doc.section? part = some (some entries) := by
  rw [Document.entriesAt] at h
  rcases hs : doc.section? part with _ | _ | entries
  · simp [hs, Value.find?] at h
  · simp [hs, Value.find?] at h
  · exact ⟨entries, rfl⟩

/-- No value of a variable is a mapping. -/
lemma entries?_value (doc : Document) (o : Override) (text : String) :
    doc.entries? (o.value text) = none := by
  rw [Override.value]
  split <;> rfl

lemma exists_value_of_overlay (h : overlay env doc = .ok doc') (ho : o ∈ inForce env overrides) :
    ∃ text, Value.find? (doc'.entriesAt o.part) o.key = some (o.value text) := by
  obtain ⟨hmem, hset⟩ := List.mem_filter.mp ho
  obtain ⟨text, he⟩ := Option.isSome_iff_exists.mp (of_decide_eq_true hset)
  exact ⟨text, find?_key_of_overlayWith h distinct_overrides hmem he⟩

/-- A section that is missing or null becomes a mapping when a variable of its own is set. -/
lemma opened_of_overlay (h : overlay env doc = .ok doc')
    (hpart : Value.find? doc.top part = none ∨ Value.find? doc.top part = some .null) :
    (∃ entries, doc'.section? part = some (some entries)) ↔
      ∃ o ∈ inForce env overrides, o.part = part := by
  constructor
  · rintro ⟨entries, hs⟩
    by_contra hnone
    by_cases hn : part ∈ (inForce env overrides).filterMap (Override.nameIn? doc 0)
    · -- The name of the section is the key of a variable whose section is the mapping at the top.
      obtain ⟨o, ho, hname⟩ := List.mem_filterMap.mp hn
      obtain ⟨hroot, rfl⟩ | ⟨_, rfl, _⟩ := Override.nameIn?_eq_some hname
      · obtain ⟨text, hvalue⟩ := exists_value_of_overlay h ho
        have hroot' := (shared_of_overlayWith_iff h
          (distinct_overrides.parts o (List.mem_of_mem_filter ho)) 0).mpr hroot
        rw [entriesAt_of_shared hroot'] at hvalue
        rw [section?_of_find? hvalue, entries?_value] at hs
        cases Option.some.inj hs
      · exact hnone ⟨o, ho, rfl⟩
    · have hfind := (gained_mapping_of_overlayWith h distinct_overrides 0).find?_eq hn
      obtain hp | hp := hpart
      · rw [section?_of_none (hfind.trans hp)] at hs
        contradiction
      · rw [section?_of_find? (hfind.trans hp)] at hs
        cases Option.some.inj hs
  · rintro ⟨o, ho, rfl⟩
    obtain ⟨text, hvalue⟩ := exists_value_of_overlay h ho
    exact exists_section?_of_find? hvalue

theorem overlaid_of_overlay (h : overlay env doc = .ok doc') : Overlaid env doc doc' := by
  refine ⟨?_, fun path => at?_of_overlayWith h distinct_overrides path _,
    fun part hpart => opened_of_overlay h hpart,
    fun n => (gained_mapping_of_overlayWith h distinct_overrides n).keys_eq, ?_⟩
  · intro o ho text he place hplace
    exact hplace.at?_append (find?_key_of_overlayWith h distinct_overrides ho he)
  · intro o ho hnot
    obtain ⟨entries, hown⟩ := (own_or_shared
      (not_rigid_of_overlayWith h distinct_overrides ho)).resolve_right (not_exists.mpr hnot)
    obtain ⟨entries', hown', hgained⟩ := own_of_overlayWith h
      (distinct_overrides.parts o (List.mem_of_mem_filter ho)) hown
    rw [hown.entriesAt, hown'.entriesAt, hgained.keys_eq]

/-- The environment cannot be laid over a document just when a variable that is set belongs to a
section that is there, but neither null nor a mapping. Otherwise the document holds what the
variables say and else what it held, with its keys in place, and doing it again changes nothing. -/
theorem overlay_paths (env : Environment) (doc : Document) :
    ((∃ v, overlay env doc = .error v) ↔ ∃ o ∈ overrides, ∃ v, o.Blocked env doc v) ∧
    ∀ doc', overlay env doc = .ok doc' →
      Overlaid env doc doc' ∧ overlay env doc' = .ok doc' := by
  refine ⟨exists_overlay_error_iff, ?_⟩
  intro doc' h
  exact ⟨overlaid_of_overlay h, overlayWith_eq_self fun o ho text he =>
    find?_key_of_overlayWith h distinct_overrides ho he⟩

/-- Both sections are opened, one of them where null stood, and a number keeps its place among the
keys. -/
theorem overlay_paths_opened :
    let env : Environment := [("LABEL_AUTHZ_LABELS_STRICT", "On"),
      ("LABEL_AUTHZ_LOGGING_JSON_OUTPUT", "no"), ("LABEL_AUTHZ_LOGGING_LEVEL", "on")]
    let doc : Document :=
      { top := [(.int 1, .list []), (.str "labels", .null), (.str "policies", .str "x")] }
    let doc' : Document := { top := [(.int 1, .list []),
      (.str "labels", .map [(.str "strict", .bool true)]), (.str "policies", .str "x"),
      (.str "logging", .map [(.str "level", .str "on"), (.str "json_output", .bool false)])] }
    overlay env doc = .ok doc' ∧ Overlaid env doc doc' ∧ overlay env doc' = .ok doc' := by
  intro env doc doc'
  have h : overlay env doc = .ok doc' := rfl
  exact ⟨h, (overlay_paths env doc).2 doc' h⟩

/-- One mapping stands in the section for logging and in that for the policies. No path among the
policies goes on from one to a variable, yet a level that is set is found there. -/
theorem overlay_paths_shared :
    let env : Environment := [("LABEL_AUTHZ_LOGGING_LEVEL", "INFO")]
    let doc : Document := { top := [(.str "policies", .shared 1), (.str "logging", .shared 1)]
                            others := fun _ => [(.str "staff", .str "a")] }
    let path : List Turn := [.named "policies", .named "level"]
    ∃ doc', overlay env doc = .ok doc' ∧ (∀ o ∈ inForce env overrides,
        ¬ path <+: [.named o.part, .named o.key] ∧ ¬ [.named o.part, .named o.key] <+: path) ∧
      doc.at? path Document.root = none ∧
      doc'.at? path Document.root = some (.str "INFO") := by
  intro env doc path
  refine ⟨_, rfl, ?_, rfl, rfl⟩
  simp [path, inForce, overrides, Override.IsSet, env, Environment.find?, Turn.named]

end Overlay

end Config

end Clearance
