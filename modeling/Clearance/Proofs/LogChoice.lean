import Clearance.Proofs.EntryPoints
import Clearance.Proofs.LoggingSection

/-! What a run answers does not depend on what is asked of its log, as long as every name of a level
that the run goes by stands for one. -/
namespace Clearance

lemma Environment.find?_cons_of_ne {name other : String} (h : other ≠ name) (value : String)
    (env : Environment) : find? ((name, value) :: env) other = find? env other := by
  simp only [find?, List.lookup_cons, beq_false_of_ne h]

namespace Level

/-- A name under which something is found that is no level: the format of plain lines, or the table
of styles. -/
def Misnamed (name : String) : Prop :=
  String.ofList (name.toList.flatMap capitals) ∈ ["BASIC_FORMAT", "_STYLES"]

instance (name : String) : Decidable (Misnamed name) := inferInstanceAs (Decidable (_ ∈ _))

lemma misnamed_or_isOk : ∀ p ∈ names,
    p.1 ∈ ["BASIC_FORMAT", "_STYLES"] ∨ p.2.threshold.isOk = true := by
  decide

/-- Any other name stands for a threshold, be it that of information. -/
theorem exists_misfit_ofName_iff {name : String} :
    (∃ m, (ofName name).threshold = .error m) ↔ Misnamed name := by
  unfold ofName Misnamed
  generalize String.ofList (name.toList.flatMap capitals) = key
  constructor
  · rintro ⟨m, hm⟩
    cases hfound : List.lookup key names with
    | none =>
      rw [hfound] at hm
      contradiction
    | some level =>
      obtain ⟨before, after, hnames, _⟩ := List.lookup_eq_some_iff.mp hfound
      rw [hfound] at hm
      refine (misnamed_or_isOk (key, level) (by simp [hnames])).resolve_right ?_
      rw [show level.threshold = .error m from hm]
      exact nofun
  · intro hkey
    simp only [List.mem_cons, List.not_mem_nil, or_false] at hkey
    obtain rfl | rfl := hkey
    · exact ⟨.unknown lineFormat, by decide⟩
    · exact ⟨.notALevel, by decide⟩

/-- Without debugging a name in the environment counts, and only such a name can be in the way. -/
theorem exists_misfit_choose_iff {debug : Bool} {env : Environment} :
    (∃ m, (choose none debug env).threshold = .error m) ↔
      debug = false ∧ ∃ name, env.find? "LABEL_AUTHZ_LOG_LEVEL" = some name ∧ Misnamed name := by
  cases debug with
  | true => simp [choose, threshold]
  | false =>
    -- Where no name is given, the switch for debugging gives one of two thresholds.
    have hswitch (b : Prop) [Decidable b] : ¬ ∃ m,
        (if b then rank Severity.debug.rank else rank Severity.info.rank).threshold = .error m := by
      split <;> simp [threshold]
    show (∃ m, (ofEnvironment env).threshold = .error m) ↔ _
    unfold ofEnvironment
    cases hname : env.find? "LABEL_AUTHZ_LOG_LEVEL" with
    | none => simpa using hswitch _
    | some name =>
      by_cases hempty : name = ""
      · subst hempty
        have hplain : ¬ Misnamed "" := by decide
        simpa [hplain] using hswitch _
      · simpa [hempty] using exists_misfit_ofName_iff

end Level

namespace Command

/-- A run of the program: the files there are, the variables that are set, and the words given. -/
structure Invocation where
  files : Path → Config.Source
  env : Environment
  words : List Text

namespace Invocation

def answer (i : Invocation) : Answer := (run i.files i.env i.words).answer

/-- The variables that nothing but the log goes by. -/
def logVariables : List String := ["LABEL_AUTHZ_LOG_LEVEL", "LABEL_AUTHZ_DEBUG"]

/-- Runs of the same command that differ in nothing but what they ask of the log: in options in
front of the command, in variables, and in the section for logging of a configuration. -/
structure AlikeButLog (i j : Invocation) : Prop where
  words : ∃ f g, Front.read i.words = .ok (.request f) ∧ Front.read j.words = .ok (.request g) ∧
    f.verb = g.verb ∧ f.rest = g.rest
  env : ∀ name ∉ logVariables, i.env.find? name = j.env.find? name
  files : ∀ path, (i.files path).AlikeButLog (j.files path)

/-- A run goes by a name that stands for no level. It is found in the environment, unless debugging
is asked for in front, or in the settings of a command for policies, unless anything is. -/
inductive Misleveled (i : Invocation) : Prop
  | ofEnv {front name} (words : Front.read i.words = .ok (.request front))
      (plain : front.debug = false) (found : i.env.find? "LABEL_AUTHZ_LOG_LEVEL" = some name)
      (misnamed : Level.Misnamed name)
  | ofSettings {front log credentials path settings}
      (reaches : Reaches i.env i.words front log (.policies credentials path))
      (plain : front.debug = false ∧ front.jsonLogs = false)
      (loaded : (Config.load i.env path.toString (i.files path)).value = .ok settings)
      (misnamed : Level.Misnamed settings.level)

end Invocation

section Logs
variable {front : Front} {log : Log} {settings : Config.Settings} {level : Level} {jsonLines : Bool}

lemma exists_ofLevel_error_iff : (∃ c, Log.ofLevel level jsonLines = .error c) ↔
    ∃ m, level.threshold = .error m := by
  unfold Log.ofLevel
  cases level.threshold <;> simp

/-- Without options in front the name of the level in the settings counts. -/
theorem exists_relog_error_iff : (∃ c, relog front log settings = .error c) ↔
    (front.debug = false ∧ front.jsonLogs = false) ∧ Level.Misnamed settings.level := by
  unfold relog
  split <;> rename_i hasked
  · cases hd : front.debug <;> simp_all
  · rw [exists_ofLevel_error_iff, Level.exists_misfit_ofName_iff]
    simp_all

end Logs

section Runs
variable {files files' : Path → Config.Source} {env env' : Environment} {words : List Text}
  {front front' : Front} {log log' : Log} {i j : Invocation}

/-- What a run comes to once its log is set up. -/
lemma answer_of_log (hw : Front.read words = .ok (.request front))
    (hlog : Log.ofLevel (.choose none front.debug env) front.jsonLogs = .ok log)
    (files : Path → Config.Source) : (run files env words).answer =
      match Request.read front.verb front.rest with
      | .error m => .misused m
      | .ok .help => .help
      | .ok (.request r) => (perform files env front log r).answer := by
  simp only [run, hw, hlog]
  cases Request.read front.verb front.rest with
  | error m => rfl
  | ok asked => cases asked <;> rfl

/-- The log has no say in what is decided about policies. -/
lemma decideAll_answer_congr {a b : Config.Settings} (hstrict : a.strict = b.strict)
    (hpolicies : a.policies = b.policies) (log log' : Log) (credentials : Text) (path : String) :
    (decideAll log credentials path a).answer = (decideAll log' credentials path b).answer := by
  simp only [decideAll, hstrict, hpolicies]
  split <;> rfl

/-- Whatever settings a command loads, a log can be set up for them. -/
def Relogs (files : Path → Config.Source) (env : Environment) (front : Front) (log : Log)
    (r : Request) : Prop :=
  ∀ credentials path settings, r = .policies credentials path →
    (Config.load env path.toString (files path)).value = .ok settings →
    ∃ log', relog front log settings = .ok log'

/-- A command comes to the same under any two logs, as long as its settings let it go on. -/
theorem perform_answer_congr {r : Request}
    (hfiles : ∀ path, (files path).AlikeButLog (files' path))
    (henv : ∀ o ∈ Config.overrides, env.find? o.variableName = env'.find? o.variableName)
    (hleft : Relogs files env front log r) (hright : Relogs files' env' front' log' r) :
    (perform files env front log r).answer = (perform files' env' front' log' r).answer := by
  cases r with
  | policies credentials path =>
    obtain ⟨f, ha, hb⟩ | ⟨a, b, ha, hb, hstrict, hpolicies⟩ :=
      (hfiles path).load henv path.toString
    · simp only [perform, policies, ha, hb]
    · obtain ⟨_, hla⟩ := hleft credentials path a rfl ha
      obtain ⟨_, hlb⟩ := hright credentials path b rfl hb
      simp only [perform, policies, ha, hb, hla, hlb]
      exact decideAll_answer_congr hstrict hpolicies ..
  | _ => rfl

namespace Invocation

/-- A name that stands for no level ends the run. -/
theorem Misleveled.answer (h : i.Misleveled) : ∃ m, i.answer = .crashed (.level m) := by
  cases h with
  | @ofEnv front name words plain found misnamed =>
    have hlog : ∃ c, Log.ofLevel (.choose none front.debug i.env) front.jsonLogs = .error c :=
      exists_ofLevel_error_iff.mpr
        (Level.exists_misfit_choose_iff.mpr ⟨plain, name, found, misnamed⟩)
    obtain ⟨c, hc⟩ := hlog
    obtain ⟨m, rfl⟩ := Config.exists_level_of_ofLevel hc
    exact ⟨m, by simp only [Invocation.answer, run, words, hc]⟩
  | @ofSettings front log _ _ settings reaches plain loaded misnamed =>
    have hlog : ∃ c, relog front log settings = .error c :=
      exists_relog_error_iff.mpr ⟨plain, misnamed⟩
    obtain ⟨c, hc⟩ := hlog
    obtain ⟨m, rfl⟩ := Config.exists_level_of_relog hc
    refine ⟨m, ?_⟩
    rw [Invocation.answer, reaches.run_eq]
    simp only [perform, policies, loaded, hc]

lemma exists_log_of_not_misleveled (h : ¬ i.Misleveled)
    (hw : Front.read i.words = .ok (.request front)) :
    ∃ log, Log.ofLevel (.choose none front.debug i.env) front.jsonLogs = .ok log := by
  cases hlog : Log.ofLevel (.choose none front.debug i.env) front.jsonLogs with
  | ok log => exact ⟨log, rfl⟩
  | error c =>
    obtain ⟨plain, name, found, misnamed⟩ :=
      Level.exists_misfit_choose_iff.mp (exists_ofLevel_error_iff.mp ⟨c, hlog⟩)
    exact absurd (.ofEnv hw plain found misnamed) h

lemma relogs_of_not_misleveled {r : Request} (h : ¬ i.Misleveled)
    (hr : Reaches i.env i.words front log r) : Relogs i.files i.env front log r := by
  rintro credentials path settings rfl hload
  cases hlog : relog front log settings with
  | ok log' => exact ⟨log', rfl⟩
  | error c =>
    obtain ⟨plain, misnamed⟩ := exists_relog_error_iff.mp ⟨c, hlog⟩
    exact absurd (.ofSettings hr plain hload misnamed) h

/-- Runs that differ in nothing but what they ask of the log come to the same. -/
lemma AlikeButLog.answer_eq (h : i.AlikeButLog j) (hi : ¬ i.Misleveled) (hj : ¬ j.Misleveled) :
    i.answer = j.answer := by
  obtain ⟨f, g, hf, hg, hverb, hrest⟩ := h.words
  obtain ⟨log, hlog⟩ := exists_log_of_not_misleveled hi hf
  obtain ⟨log', hlog'⟩ := exists_log_of_not_misleveled hj hg
  rw [Invocation.answer, Invocation.answer, answer_of_log hf hlog, answer_of_log hg hlog', hverb,
    hrest]
  cases hr : Request.read g.verb g.rest with
  | error m => rfl
  | ok asked =>
    cases asked with
    | help => rfl
    | request r =>
      have hleft : Reaches i.env i.words f log r := ⟨hf, hlog, by rw [hverb, hrest, hr]⟩
      have hright : Reaches j.env j.words g log' r := ⟨hg, hlog', hr⟩
      have hvariables : ∀ o ∈ Config.overrides, o.variableName ∉ logVariables := by decide
      exact perform_answer_congr h.files (fun o ho => h.env _ (hvariables o ho))
        (relogs_of_not_misleveled hi hleft) (relogs_of_not_misleveled hj hright)

/-- What is asked of the log decides nothing. Two runs that differ in nothing else have the same
exit code and show the same, as long as every name of a level that they go by stands for one; names
that do not are those of the format of plain lines and of the table of styles. A run that goes by
one of these ends with the exit code of a denial and shows nothing. -/
theorem answer_of_log_choice (h : i.AlikeButLog j) :
    (¬ i.Misleveled → ¬ j.Misleveled →
      i.answer.exitCode = j.answer.exitCode ∧ i.answer.text = j.answer.text) ∧
    (i.Misleveled → (∃ m, i.answer = .crashed (.level m)) ∧ i.answer.exitCode = 1 ∧
      i.answer.text = []) := by
  refine ⟨?_, ?_⟩
  · intro hi hj
    rw [h.answer_eq hi hj]
    exact ⟨rfl, rfl⟩
  · intro hi
    obtain ⟨m, hm⟩ := hi.answer
    rw [hm]
    exact ⟨⟨m, rfl⟩, rfl, rfl⟩

/-- Three runs for the same policy. The first is alike with the second, as debugging asked for in
front comes before the level of the settings; the third goes by that level, and ends. -/
theorem answer_of_log_choice_settings :
    let entries (level : String) : Entries :=
      [(.str "logging", .map [(.str "level", .str level), (.str "json_output", .bool true)]),
        (.str "policies", .map [(.str "staff", .str "a")])]
    let files (level : String) : Path → Config.Source := fun _ => .document (.map (entries level))
    let words : List Text := ["policies", "-a", "a"].map String.toList
    let asked : Invocation :=
      ⟨files "basic_format", [("LABEL_AUTHZ_LOG_LEVEL", "ERROR")], "--debug".toList :: words⟩
    let noisy : Invocation := ⟨files "noise", [("LABEL_AUTHZ_DEBUG", "1")], words⟩
    let misled : Invocation := ⟨files "basic_format", [], words⟩
    (asked.AlikeButLog noisy ∧ ¬ asked.Misleveled ∧ ¬ noisy.Misleveled ∧
      asked.answer.exitCode = noisy.answer.exitCode) ∧
    misled.AlikeButLog noisy ∧ misled.Misleveled ∧ misled.answer.exitCode = 1 := by
  intro entries files words asked noisy misled
  have hparse : Expr.parse "a".toList = .ok (.leaf ['a']) := by decide +kernel
  have hfiles (level level' : String) (path : Path) :
      (files level path).AlikeButLog (files level' path) := by
    have hsound (level : String) : Config.LogsSoundly { top := entries level } :=
      ⟨⟨(level, true), rfl⟩, by simp [Config.Joint, entries, Value.find?],
        by simp [entries, Value.find?]⟩
    have hnone (level : String) : Value.find? (entries level) "labels" = none := rfl
    refine .documents (fun _ => rfl) (fun _ => rfl)
      ⟨rfl, rfl, ?_, ?_, ?_, rfl, hsound level, hsound level'⟩
    · exact fun v => iff_of_false (fun hr => by cases (hnone level).symm.trans hr.found)
        fun hr => by cases (hnone level').symm.trans hr.found
    · simp only [hnone]
    · simp [Config.Joint, hnone]
  have hload (env : Environment) (henv : ∀ o ∈ Config.overrides, env.find? o.variableName = none)
      (level : String) (path : Path) : (Config.load env path.toString (files level path)).value =
        .ok ⟨level, true, false, [("staff", "a")]⟩ := by
    have hoverlay (d : Config.Document) : Config.overlay env d = Config.overlay [] d :=
      Config.overlayWith_congr henv d
    have hprepare : Config.prepare env path.toString (files level path) =
        .ok { top := entries level } := by
      simp only [Config.prepare, files, Config.document, hoverlay]
      rfl
    refine (Config.load_eq_ok_iff hprepare).mpr
      ⟨⟨_, .inr rfl, .inr ⟨_, rfl, .str level⟩, .inr ⟨_, rfl, .bool true⟩⟩,
        ⟨[], .inl ⟨rfl, rfl⟩, .inl ⟨rfl, rfl⟩⟩,
        Config.policies_of_pairs (.inr rfl) (by simp), ?_⟩
    exact List.forall_mem_cons.mpr ⟨⟨_, hparse⟩, List.forall_mem_nil _⟩
  have hread : Front.read words =
      .ok (.request ⟨false, false, .policies, ["-a", "a"].map String.toList⟩) := rfl
  have hasked : Front.read asked.words =
      .ok (.request ⟨true, false, .policies, ["-a", "a"].map String.toList⟩) := rfl
  have hplain : ¬ asked.Misleveled := by
    rintro (⟨words, plain, _, _⟩ | ⟨reaches, ⟨plain, _⟩, _, _⟩)
    · cases hasked.symm.trans words
      simp at plain
    · cases hasked.symm.trans reaches.words_read
      simp at plain
  have hnoisy : ¬ noisy.Misleveled := by
    rintro (⟨_, _, found, _⟩ | ⟨_, _, loaded, misnamed⟩)
    · contradiction
    · cases (hload _ (by decide) "noise" _).symm.trans loaded
      exact absurd misnamed (by decide)
  have hreaches : Reaches [] words ⟨false, false, .policies, ["-a", "a"].map String.toList⟩
      ⟨20, false⟩ (.policies ['a'] defaultConfig) := ⟨hread, rfl, rfl⟩
  have hmisled : misled.Misleveled :=
    .ofSettings hreaches ⟨rfl, rfl⟩ (hload [] (by decide) "basic_format" defaultConfig) (by decide)
  have halike : asked.AlikeButLog noisy := by
    refine ⟨⟨_, _, hasked, hread, rfl, rfl⟩, ?_, hfiles _ _⟩
    intro name hname
    have hlevel : name ≠ "LABEL_AUTHZ_LOG_LEVEL" := fun h => hname (h ▸ by decide)
    have hdebug : name ≠ "LABEL_AUTHZ_DEBUG" := fun h => hname (h ▸ by decide)
    exact (Environment.find?_cons_of_ne hlevel _ _).trans
      (Environment.find?_cons_of_ne hdebug _ _).symm
  have halike' : misled.AlikeButLog noisy := by
    refine ⟨⟨_, _, hread, hread, rfl, rfl⟩, ?_, hfiles _ _⟩
    intro name hname
    have hdebug : name ≠ "LABEL_AUTHZ_DEBUG" := fun h => hname (h ▸ by decide)
    exact (Environment.find?_cons_of_ne hdebug _ _).symm
  exact ⟨⟨halike, hplain, hnoisy, ((answer_of_log_choice halike).1 hplain hnoisy).1⟩,
    halike', hmisled, ((answer_of_log_choice halike').2 hmisled).2.1⟩

/-- A name of a level decides: access that is allowed ends with the exit code of a denial when the
variable for the level names the format of plain lines. -/
theorem exitCode_of_log_choice_format :
    let files : Path → Config.Source := fun _ => .missing
    let words : List Text := ["check", "a", "--auth", "a"].map String.toList
    let silent : Invocation := ⟨files, [], words⟩
    let named : Invocation := ⟨files, [("LABEL_AUTHZ_LOG_LEVEL", "BASIC_FORMAT")], words⟩
    named.AlikeButLog silent ∧
      (silent.answer.exitCode = 0 ∧ silent.answer.text = "ALLOW\n".toList) ∧
      named.answer.exitCode = 1 ∧ named.answer.text = [] := by
  intro files words silent named
  have hread : Front.read words =
      .ok (.request ⟨false, false, .check, ["a", "--auth", "a"].map String.toList⟩) := rfl
  have halike : named.AlikeButLog silent := by
    refine ⟨⟨_, _, hread, hread, rfl, rfl⟩, ?_, fun path => .same _⟩
    intro name hname
    refine Environment.find?_cons_of_ne ?_ "BASIC_FORMAT" []
    rintro rfl
    exact hname (by decide)
  have hsilent : silent.answer = .decided true := by
    have hreaches : Reaches [] words _ ⟨20, false⟩ (.check ['a'] ['a'] false) := ⟨hread, rfl, rfl⟩
    have hparse : Expr.parse ['a'] = .ok (.leaf ['a']) := by decide +kernel
    have hlabels : Credentials.read false ['a'] = .ok [['a']] := rfl
    rw [show silent.answer = _ from hreaches.answer_check files,
      Check.byCredentials_of_read hlabels, Check.byHolding_of_parse hparse]
    rfl
  have hnamed : named.Misleveled := .ofEnv hread rfl rfl (by decide)
  obtain ⟨m, hm⟩ := hnamed.answer
  rw [hsilent, hm]
  exact ⟨halike, ⟨rfl, rfl⟩, rfl, rfl⟩

end Invocation

end Runs

end Command

end Clearance
