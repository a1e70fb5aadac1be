import Clearance.Proofs.Access

/-! Sequences of calls in any order, and the log that they write from a level on. The level has no
say in what the calls give back, and of what is logged it only keeps back what is less severe. -/
namespace Clearance

/-- The same events, and another value made of the one there is. -/
def Audited.map {α β : Type} (f : α → β) (x : Audited α) : Audited β := ⟨f x.value, x.events⟩

namespace Library

/-- Checkers are numbered in the order in which they were prepared. -/
inductive Call
  | check (strict : Bool) (expression credentials : Text)
  | checkHolding (held : Label → Bool) (expression : Text)
  | prepare (strict : Bool) (credentials : Text)
  | checkPrepared (checker : Nat) (expression : Text)

/-- What a call gives back. A checker that was not prepared gives back nothing. -/
inductive Reply
  | decision (r : Except Refusal Bool)
  | checker (r : Except Refusal LabelSet)
  | nothing

/-- The checker that a call gives back is there for later calls. -/
def Reply.checkers : Reply → List LabelSet
  | checker (.ok labels) => [labels]
  | _ => []

def Call.perform (checkers : List LabelSet) : Call → Audited Reply
  | check strict expression credentials =>
    (Check.byCredentials strict expression credentials).map .decision
  | checkHolding held expression => (Check.byHolding held expression).map .decision
  | prepare strict credentials => (Check.prepare strict credentials).map .checker
  | checkPrepared checker expression =>
    match checkers[checker]? with
    | some labels => (Check.prepared labels expression).map .decision
    | none => .quiet .nothing

/-- The checkers that are there, and the log as far as it is written. -/
structure State where
  checkers : List LabelSet
  log : List Event

def State.initial : State := ⟨[], []⟩

/-- An event is dropped when it is less severe than the level. -/
def record (level : Int) (log : List Event) (e : Event) : List Event :=
  if e.passes level then log ++ [e] else log

def step (level : Int) (s : State) (call : Call) : Reply × State :=
  let x := call.perform s.checkers
  (x.value, ⟨s.checkers ++ x.value.checkers, x.events.foldl (record level) s.log⟩)

/-- Makes calls one after the other. -/
def run (level : Int) (s : State) : List Call → List Reply × State
  | [] => ([], s)
  | call :: calls =>
    let made := step level s call
    let rest := run level made.2 calls
    (made.1 :: rest.1, rest.2)

section Step
variable {level low high : Int} {s t : State}

lemma foldl_record (level : Int) (log events : List Event) :
    events.foldl (record level) log = log ++ events.filter (Event.passes level) := by
  induction events generalizing log with
  | nil => simp
  | cons e es ih =>
    rw [List.foldl_cons, ih]
    cases h : e.passes level <;> simp [record, h]

/-- A call adds to the log what is written of it at the level. -/
lemma step_log (level : Int) (s : State) (call : Call) : (step level s call).2.log =
    s.log ++ (call.perform s.checkers).written level :=
  foldl_record level s.log _

/-- The same checkers are there, and all of the log that is as severe as the level. -/
structure State.Filters (level : Int) (s t : State) : Prop where
  checkers : t.checkers = s.checkers
  log : t.log = s.log.filter (Event.passes level)

lemma passes_of_le {e : Event} (h : low ≤ high) (he : e.passes high = true) :
    e.passes low = true := by
  simp only [Event.passes, decide_eq_true_eq] at he ⊢
  omega

lemma filter_written {α : Type} (h : low ≤ high) (x : Audited α) :
    (x.written low).filter (Event.passes high) = x.written high := by
  rw [Audited.written, Audited.written, List.filter_filter]
  refine List.filter_congr fun e _ => ?_
  cases he : e.passes high with
  | false => rfl
  | true => rw [passes_of_le h he, Bool.and_true]

/-- A call at a higher level gives back the same, and its log stays the part that is kept. -/
theorem State.Filters.step (h : low ≤ high) (hs : s.Filters high t) (call : Call) :
    (Library.step high t call).1 = (Library.step low s call).1 ∧
      (Library.step low s call).2.Filters high (Library.step high t call).2 := by
  obtain ⟨hc, hl⟩ := hs
  refine ⟨by rw [Library.step, hc]; rfl, by rw [Library.step, hc]; rfl, ?_⟩
  rw [step_log, step_log, hc, hl, List.filter_append, filter_written h]

theorem State.Filters.run (h : low ≤ high) (hs : s.Filters high t) (calls : List Call) :
    (Library.run high t calls).1 = (Library.run low s calls).1 ∧
      (Library.run low s calls).2.Filters high (Library.run high t calls).2 := by
  induction calls generalizing s t with
  | nil => exact ⟨rfl, hs⟩
  | cons call calls ih =>
    obtain ⟨hreply, hnext⟩ := hs.step h call
    obtain ⟨hreplies, hlast⟩ := ih hnext
    exact ⟨by rw [Library.run, Library.run, hreply, hreplies], hlast⟩

end Step

/-- An event of a check: a warning when it tells of a refused expression, else for debugging. -/
def OfCheck (e : Event) : Prop :=
  e.severity = if e.name = "authorization_expression_invalid" then .warning else .debug

section Severity
variable {level : Int} {s : State} {checkers : List LabelSet} {e : Event}

lemma ofCheck_byHolding {held : Label → Bool} {expression : Text}
    (h : e ∈ (Check.byHolding held expression).events) : OfCheck e := by
  cases hp : Expr.parse expression with
  | error r =>
    rw [Check.byHolding_of_refused hp, List.mem_singleton] at h
    rw [h, OfCheck]
    rfl
  | ok t =>
    rw [Check.byHolding_of_parse hp, List.mem_pair] at h
    obtain rfl | rfl := h <;> (unfold OfCheck; rfl)

theorem ofCheck_perform {call : Call} (h : e ∈ (call.perform checkers).events) : OfCheck e := by
  cases call with
  | check strict expression credentials =>
    change e ∈ (Check.byCredentials strict expression credentials).events at h
    unfold Check.byCredentials at h
    split at h
    · contradiction
    · exact ofCheck_byHolding h
  | checkHolding held expression => exact ofCheck_byHolding h
  | prepare strict credentials =>
    change e ∈ (Check.prepare strict credentials).events at h
    unfold Check.prepare at h
    split at h
    · contradiction
    · obtain rfl := List.mem_singleton.mp h
      unfold OfCheck
      rfl
  | checkPrepared checker expression =>
    simp only [Call.perform] at h
    split at h
    · exact ofCheck_byHolding h
    · contradiction

lemma ofCheck_run (hs : ∀ e ∈ s.log, OfCheck e) (calls : List Call) :
    ∀ e ∈ (run level s calls).2.log, OfCheck e := by
  induction calls generalizing s with
  | nil => exact hs
  | cons call calls ih =>
    refine ih ?_
    rw [step_log]
    intro e he
    obtain he | he := List.mem_append.mp he
    · exact hs e he
    · exact ofCheck_perform (List.mem_of_mem_filter he)

end Severity

/-- Calls in any order give back the same at two levels. What is logged at the higher one are the
events logged at the lower one that are as severe as that, in the same order; only those that tell
of a refused expression are warnings, and all others are for debugging. -/
theorem run_of_level_le {low high : Int} (h : low ≤ high) (calls : List Call) :
    let before := run low .initial calls
    let after := run high .initial calls
    after.1 = before.1 ∧
      after.2.log = before.2.log.filter (fun e => high ≤ e.severity.rank) ∧
      ∀ e ∈ before.2.log, e.severity.rank =
        if e.name = "authorization_expression_invalid" then 30 else 10 := by
  intro before after
  have hinitial : State.initial.Filters high .initial := ⟨rfl, rfl⟩
  obtain ⟨hreplies, _, hlog⟩ := hinitial.run h calls
  refine ⟨hreplies, hlog, ?_⟩
  intro e he
  rw [ofCheck_run (s := .initial) nofun calls e he]
  split <;> rfl

/-- Of three calls only the refusal is kept when information is asked for. -/
theorem run_of_level_le_info :
    let mixed : Text := "a & b | c".toList
    let calls : List Call :=
      [.prepare false ['a'], .checkPrepared 0 mixed, .checkHolding (fun _ => false) ['a']]
    (10 : Int) ≤ 20 ∧ (run 20 .initial calls).1 = (run 10 .initial calls).1 ∧
      (run 10 .initial calls).2.log = [.prepared 1, .refused mixed (.malformed .mixedOperators),
        .parsed ['a'], .decided ['a'] false] ∧
      (run 20 .initial calls).2.log = [.refused mixed (.malformed .mixedOperators)] := by
  intro mixed calls
  have ha : Expr.parse ['a'] = .ok (.leaf ['a']) := by decide +kernel
  have hmixed : Expr.parse mixed = .error (.malformed .mixedOperators) := by decide +kernel
  have hread : Check.prepare false ['a'] = ⟨.ok [['a']], [.prepared 1]⟩ := rfl
  have hlow : (run 10 .initial calls).2.log = [.prepared 1,
      .refused mixed (.malformed .mixedOperators), .parsed ['a'], .decided ['a'] false] := by
    simp [calls, run, step, State.initial, Call.perform, Check.prepared, Audited.map, hread,
      Reply.checkers, Check.byHolding_of_parse ha, Check.byHolding_of_refused hmixed]
    rfl
  obtain ⟨hreplies, hlog, _⟩ := run_of_level_le (show (10 : Int) ≤ 20 by decide) calls
  refine ⟨by decide, hreplies, hlow, ?_⟩
  rw [hlog, hlow]
  rfl

end Library

end Clearance
