import Clearance.Proofs.Calls
import Clearance.Proofs.Monotonicity
import Mathlib.Data.Finset.Card

/-! The trail that calls leave when everything is logged: the lines of each call, in the order of
the calls, told from what the call is given and gives back. -/
namespace Clearance

/-- The labels that are counted are distinct. -/
lemma Credentials.length_labels (credentials : Text) :
    (labels credentials).length = ((items credentials).map label).toFinset.card := by
  rw [labels, ← List.toFinset_card_of_nodup (LabelSet.nodup_eraseDups _)]
  congr 1
  ext l
  simp

/-- What is wrong with an expression is told apart from what is wrong with credentials. -/
lemma Expr.name_of_parse {source : Text} {r : Refusal} (h : Expr.parse source = .error r) :
    r.name ≠ "LabelSetError" := by
  cases r with
  | stray c position => simp [Refusal.name, Refusal.report, Report.name]
  | malformed fault => cases fault <;> simp [Fault.name]
  | emptyLabel index item => exact absurd h (parse_ne_emptyLabel source index item)

namespace Library

/-- The fields of a line, and what they hold. -/
abbrev Line := List (String × Value)

namespace Line

def expressionInvalid (expression : Text) (r : Refusal) : Line :=
  [("expression", .str (String.ofList expression)), ("error", .str r.message),
    ("error_type", .str r.name), ("event", .str "authorization_expression_invalid"),
    ("logger", .str "authz.check"), ("level", .str "warning")]

def expressionParsed (source : Text) : Line :=
  [("source", .str (String.ofList source)), ("event", .str "expression_parsed"),
    ("logger", .str "authz.parser"), ("level", .str "debug")]

def checked (expression : Text) (allowed : Bool) : Line :=
  [("expression", .str (String.ofList expression)), ("allowed", .bool allowed),
    ("event", .str "authorization_checked"), ("logger", .str "authz.check"),
    ("level", .str "debug")]

def checkPrepared (labels : Nat) : Line :=
  [("label_count", .int labels), ("event", .str "authorization_check_prepared"),
    ("logger", .str "authz.check"), ("level", .str "debug")]

end Line

/-- A call that gets as far as its expression, and what says which labels are held. -/
inductive Call.Reaches (checkers : List LabelSet) : Call → (Label → Bool) → Text → Prop
  | check {strict expression credentials labels}
      (read : Credentials.read strict credentials = .ok labels) :
      Reaches checkers (.check strict expression credentials) labels.holds expression
  | checkHolding (held : Label → Bool) (expression : Text) :
      Reaches checkers (.checkHolding held expression) held expression
  | checkPrepared {checker expression} {labels : LabelSet}
      (found : checkers[checker]? = some labels) :
      Reaches checkers (.checkPrepared checker expression) labels.holds expression

/-- What a call gives back, and the lines that it leaves. -/
inductive Leaves (checkers : List LabelSet) : Call → Reply → List Line → Prop
  | rejected {call held expression r} (reaches : call.Reaches checkers held expression)
      (parsed : Expr.parse expression = .error r) (name : r.name ≠ "LabelSetError") :
      Leaves checkers call (.decision (.error r)) [.expressionInvalid expression r]
  | accepted {call held expression e} (reaches : call.Reaches checkers held expression)
      (parsed : Expr.parse expression = .ok e) :
      Leaves checkers call (.decision (.ok (Expr.truth held e)))
        [.expressionParsed expression, .checked expression (Expr.truth held e)]
  | unlabelled {strict expression credentials r}
      (read : Credentials.read strict credentials = .error r) (name : r.name = "LabelSetError") :
      Leaves checkers (.check strict expression credentials) (.decision (.error r)) []
  | prepared {strict credentials labels} (read : Credentials.read strict credentials = .ok labels) :
      Leaves checkers (.prepare strict credentials) (.checker (.ok labels))
        [.checkPrepared ((Credentials.items credentials).map Credentials.label).toFinset.card]
  | unprepared {strict credentials r} (read : Credentials.read strict credentials = .error r) :
      Leaves checkers (.prepare strict credentials) (.checker (.error r)) []
  | absent {checker expression} (absent : checkers[checker]? = none) :
      Leaves checkers (.checkPrepared checker expression) .nothing []

/-- The replies to calls and the lines of all of them, call by call. -/
inductive Trail : List LabelSet → List Call → List Reply → List Line → Prop
  | nil (checkers : List LabelSet) : Trail checkers [] [] []
  | cons {checkers call calls reply replies lines rest} (head : Leaves checkers call reply lines)
      (tail : Trail (checkers ++ reply.checkers) calls replies rest) :
      Trail checkers (call :: calls) (reply :: replies) (lines ++ rest)

section Call
variable {checkers : List LabelSet} {call : Call} {held : Label → Bool} {expression : Text}

/-- However a call gets to its expression, what follows is the same. -/
lemma Call.Reaches.perform_eq (h : call.Reaches checkers held expression) :
    call.perform checkers = (Check.byHolding held expression).map .decision := by
  cases h with
  | check read => rw [Call.perform, Check.byCredentials_of_read read]
  | checkHolding => rfl
  | checkPrepared found => simp only [Call.perform, found, Check.prepared]

/-- One call leaves the lines of its events. -/
lemma leaves_of_reaches (h : call.Reaches checkers held expression) :
    Leaves checkers call (call.perform checkers).value
      ((call.perform checkers).events.map Event.record) := by
  rw [h.perform_eq]
  cases hp : Expr.parse expression with
  | error r =>
    rw [Check.byHolding_of_refused hp]
    exact .rejected h hp (Expr.name_of_parse hp)
  | ok e =>
    rw [Check.byHolding_of_parse hp, Expr.evaluate_eq_truth]
    exact .accepted h hp

/-- A call gives back and leaves what it is said to. -/
theorem leaves_perform (checkers : List LabelSet) (call : Call) :
    Leaves checkers call (call.perform checkers).value
      ((call.perform checkers).events.map Event.record) := by
  cases call with
  | check strict expression credentials =>
    obtain hr | ⟨index, item, hr⟩ := Credentials.read_cases strict credentials
    · exact leaves_of_reaches (.check hr)
    · rw [Call.perform, Check.byCredentials, hr]
      exact .unlabelled hr rfl
  | checkHolding held expression => exact leaves_of_reaches (.checkHolding held expression)
  | prepare strict credentials =>
    obtain hr | ⟨index, item, hr⟩ := Credentials.read_cases strict credentials
    · have h : Leaves checkers (.prepare strict credentials) _ _ := .prepared hr
      rw [← Credentials.length_labels] at h
      rw [Call.perform, Check.prepare, hr]
      exact h
    · rw [Call.perform, Check.prepare, hr]
      exact .unprepared hr
  | checkPrepared checker expression =>
    cases hc : checkers[checker]? with
    | some labels => exact leaves_of_reaches (.checkPrepared hc)
    | none =>
      simp only [Call.perform, hc]
      exact .absent hc

/-- Nothing else can be left of a call. -/
theorem Leaves.eq_perform {reply : Reply} {lines : List Line}
    (h : Leaves checkers call reply lines) : (call.perform checkers).value = reply ∧
      (call.perform checkers).events.map Event.record = lines := by
  cases h with
  | rejected reaches parsed =>
    rw [reaches.perform_eq, Check.byHolding_of_refused parsed]
    exact ⟨rfl, rfl⟩
  | accepted reaches parsed =>
    rw [reaches.perform_eq, Check.byHolding_of_parse parsed, Expr.evaluate_eq_truth]
    exact ⟨rfl, rfl⟩
  | unlabelled read =>
    rw [Call.perform, Check.byCredentials, read]
    exact ⟨rfl, rfl⟩
  | @prepared strict credentials labels read =>
    obtain hr | ⟨index, item, hr⟩ := Credentials.read_cases strict credentials
    · obtain rfl := Except.ok.inj (hr.symm.trans read)
      rw [Call.perform, Check.prepare, hr, ← Credentials.length_labels]
      exact ⟨rfl, rfl⟩
    · cases hr.symm.trans read
  | unprepared read =>
    rw [Call.perform, Check.prepare, read]
    exact ⟨rfl, rfl⟩
  | absent absent =>
    simp only [Call.perform, absent]
    exact ⟨rfl, rfl⟩

end Call

section Run
variable {checkers : List LabelSet} {calls : List Call} {replies : List Reply} {lines : List Line}

/-- When debugging is asked for, every event of a call is written. -/
lemma written_debug {α : Type} (x : Audited α) : x.written Severity.debug.rank = x.events := by
  refine List.filter_eq_self.mpr fun e _ => ?_
  cases h : e.severity <;> simp [Event.passes, h, Severity.rank]

lemma step_debug (s : State) (call : Call) : step Severity.debug.rank s call =
    ((call.perform s.checkers).value, ⟨s.checkers ++ (call.perform s.checkers).value.checkers,
      s.log ++ (call.perform s.checkers).events⟩) := by
  rw [step, foldl_record]
  exact congrArg (fun es => (_, State.mk _ (s.log ++ es))) (written_debug _)

/-- The log of a run grows by a trail of its calls. -/
theorem exists_trail_run (s : State) (calls : List Call) :
    ∃ events, (run Severity.debug.rank s calls).2.log = s.log ++ events ∧
      Trail s.checkers calls (run Severity.debug.rank s calls).1 (events.map Event.record) := by
  induction calls generalizing s with
  | nil => exact ⟨[], by simp [run], .nil _⟩
  | cons call calls ih =>
    obtain ⟨events, hlog, htrail⟩ := ih (step Severity.debug.rank s call).2
    rw [step_debug] at hlog htrail
    -- The lines of the first call stand in front, and the rest starts from its checkers.
    refine ⟨(call.perform s.checkers).events ++ events, ?_, ?_⟩
    · rw [run, step_debug, hlog, List.append_assoc]
    · rw [run, step_debug, List.map_append]
      exact .cons (leaves_perform s.checkers call) htrail

/-- Only one trail fits the calls. -/
theorem Trail.unique {replies' : List Reply} {lines' : List Line}
    (h : Trail checkers calls replies lines) (h' : Trail checkers calls replies' lines') :
    replies = replies' ∧ lines = lines' := by
  induction h generalizing replies' lines' with
  | nil =>
    cases h'
    exact ⟨rfl, rfl⟩
  | cons head _ ih =>
    cases h' with
    | cons head' tail' =>
      obtain ⟨rfl, rfl⟩ := head.eq_perform
      obtain ⟨rfl, rfl⟩ := head'.eq_perform
      obtain ⟨rfl, rfl⟩ := ih tail'
      exact ⟨rfl, rfl⟩

lemma trail_iff : Trail [] calls replies lines ↔
    (run Severity.debug.rank .initial calls).1 = replies ∧
      (run Severity.debug.rank .initial calls).2.log.map Event.record = lines := by
  obtain ⟨events, hlog, htrail⟩ := exists_trail_run .initial calls
  rw [hlog]
  constructor
  · exact htrail.unique
  · rintro ⟨rfl, rfl⟩
    exact htrail

end Run

lemma run_append (level : Int) (s : State) (before after : List Call) :
    (run level s (before ++ after)).2 = (run level (run level s before).2 after).2 := by
  induction before generalizing s with
  | nil => rfl
  | cons call calls ih => exact ih _

/-- Checkers stay, and keep their numbers. -/
lemma checkers_prefix_run (level : Int) (s : State) (calls : List Call) :
    s.checkers <+: (run level s calls).2.checkers := by
  induction calls generalizing s with
  | nil => exact List.prefix_rfl
  | cons call calls ih =>
    have hstep : s.checkers <+: (step level s call).2.checkers := List.prefix_append _ _
    exact hstep.trans (ih _)

/-- A checker that was prepared has the number of those that were there before. -/
lemma checkers_of_prepared {strict : Bool} {credentials : Text} {labels : LabelSet}
    (h : Credentials.read strict credentials = .ok labels) (level : Int) (s : State)
    (between : List Call) :
    (run level s (.prepare strict credentials :: between)).2.checkers[s.checkers.length]? =
      some labels := by
  have hstep : (step level s (.prepare strict credentials)).2.checkers =
      s.checkers ++ [labels] := by
    simp only [step, Call.perform, Check.prepare, h]
    rfl
  -- Whatever is prepared later comes after it.
  obtain ⟨later, hlater⟩ :=
    checkers_prefix_run level (step level s (.prepare strict credentials)).2 between
  rw [run, ← hlater, hstep]
  simp

/-- A check adds no checker, and what it comes to is all the same however it is asked for. -/
lemma Call.Reaches.step_eq {s : State} {call : Call} {held : Label → Bool} {expression : Text}
    (h : call.Reaches s.checkers held expression) (level : Int) : step level s call =
      (.decision (Check.byHolding held expression).value,
        ⟨s.checkers, s.log ++ (Check.byHolding held expression).written level⟩) := by
  rw [step, foldl_record, h.perform_eq]
  exact congrArg (fun cs => (_, State.mk cs _)) (List.append_nil _)

/-- The trail of calls in any order, when debugging is asked for: replies and lines are those of the
trail, call by call, and no others. A check that was prepared, before any other calls and after
any, gives back and adds to the log the same as the check with the same credentials that is made
at any other time. -/
theorem trail_of_calls (calls : List Call) (replies : List Reply) (lines : List Line) :
    (Trail [] calls replies lines ↔
      (run Severity.debug.rank .initial calls).1 = replies ∧
        (run Severity.debug.rank .initial calls).2.log.map Event.record = lines) ∧
    ∀ before strict credentials labels between,
      calls = before ++ .prepare strict credentials :: between →
      Credentials.read strict credentials = .ok labels →
      ∀ s expression,
        let checker := (run Severity.debug.rank .initial before).2.checkers.length
        let reached := (run Severity.debug.rank .initial calls).2
        ∃ reply events,
          step Severity.debug.rank reached (.checkPrepared checker expression) =
            (reply, ⟨reached.checkers, reached.log ++ events⟩) ∧
          step Severity.debug.rank s (.check strict expression credentials) =
            (reply, ⟨s.checkers, s.log ++ events⟩) := by
  refine ⟨trail_iff, ?_⟩
  rintro before strict credentials labels between rfl hread s expression checker reached
  have hfound := checkers_of_prepared hread Severity.debug.rank
    (run Severity.debug.rank .initial before).2 between
  rw [← run_append] at hfound
  exact ⟨_, _, (Call.Reaches.checkPrepared hfound).step_eq _, (Call.Reaches.check hread).step_eq _⟩

/-- A checker is prepared, a blank item is refused, and the checker refuses an expression and then
decides on another. -/
theorem trail_of_calls_interleaved :
    let listed : Text := "a,b,a".toList
    let mixed : Text := "a & b | c".toList
    let calls : List Call :=
      [.prepare false listed, .check true ['a'] ['a', ','], .checkPrepared 0 mixed]
    let reached := (run Severity.debug.rank .initial calls).2
    Trail [] calls
      [.checker (.ok [['a'], ['b']]), .decision (.error (.emptyLabel 1 [])),
        .decision (.error (.malformed .mixedOperators))]
      [.checkPrepared 2, .expressionInvalid mixed (.malformed .mixedOperators)] ∧
    Credentials.read false listed = .ok [['a'], ['b']] ∧
    (step Severity.debug.rank reached (.checkPrepared 0 ['b'])).1 = .decision (.ok true) := by
  intro listed mixed calls reached
  have hb : Expr.parse ['b'] = .ok (.leaf ['b']) := by decide +kernel
  have hmixed : Expr.parse mixed = .error (.malformed .mixedOperators) := by decide +kernel
  have hread : Credentials.read false listed = .ok [['a'], ['b']] := rfl
  have hblank : Credentials.read true ['a', ','] = .error (.emptyLabel 1 []) := rfl
  obtain ⟨htrail, hprepared⟩ := trail_of_calls calls
    [.checker (.ok [['a'], ['b']]), .decision (.error (.emptyLabel 1 [])),
      .decision (.error (.malformed .mixedOperators))]
    [.checkPrepared 2, .expressionInvalid mixed (.malformed .mixedOperators)]
  obtain ⟨reply, events, hchecker, hcheck⟩ :=
    hprepared [] false listed _ [.check true ['a'] ['a', ','], .checkPrepared 0 mixed] rfl hread
      .initial ['b']
  refine ⟨htrail.mpr ?_, hread, (congrArg Prod.fst hchecker).trans ?_⟩
  · have hrun : run Severity.debug.rank .initial calls =
        ([.checker (.ok [['a'], ['b']]), .decision (.error (.emptyLabel 1 [])),
          .decision (.error (.malformed .mixedOperators))],
        ⟨[[['a'], ['b']]], [.prepared 2, .refused mixed (.malformed .mixedOperators)]⟩) := by
      simp [calls, run, step_debug, State.initial, Call.perform, Check.prepare, Check.prepared,
        Check.byCredentials, Audited.map, Audited.quiet, hread, hblank, Reply.checkers,
        Check.byHolding_of_refused hmixed]
    rw [hrun]
    exact ⟨rfl, rfl⟩
  · have hreply : reply = (step Severity.debug.rank .initial (.check false ['b'] listed)).1 := by
      rw [hcheck]
    rw [hreply, (Call.Reaches.check hread).step_eq, Check.byHolding_of_parse hb]
    rfl

end Library

end Clearance
