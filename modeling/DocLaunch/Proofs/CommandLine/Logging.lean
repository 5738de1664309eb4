import Mathlib.Data.List.Basic
import DocLaunch.Proofs.CommandLine.Forwarding
import DocLaunch.Proofs.Settings.Overlay
import DocLaunch.Proofs.World.Logging

namespace DocLaunch

open Activity

namespace Settings

theorem loadFrom_composed (p : Path) : (loadFrom p).Composed :=
  (composed_ask _ _).bind fun _ => (composed_ofExcept _ _).bind fun _ => composed_ofExcept _ _

theorem load_composed (root : ProjectRoot) : (load root).Composed := by
  refine (composed_ask _ _).bind fun found => ?_
  cases found with
  | true => exact loadFrom_composed _
  | false => exact .bind (.log _ _ _ (by decide)) fun _ => .pure _

theorem init_composed (dir : Path) (force : Bool) : (init dir force).Composed := by
  refine .bind .files fun _ => composed_cwd.bind fun _ => ?_
  refine .bind (.setFiles _) fun _ => (composed_ofExcept _ _).bind fun _ => ?_
  refine (composed_ask _ _).bind fun found => ?_
  split
  · -- The rest is put behind the refusal too, but never reached.
    exact .throw (.settings (.alreadyExists (Path.join dir ProjectRoot.settingsName)))
  · refine .bind .files fun _ => composed_cwd.bind fun _ => ?_
    refine (composed_ofExcept _ _).bind fun _ => .bind (.setFiles _) fun _ => ?_
    exact .bind (.log _ _ _ (by decide)) fun _ => .pure _

theorem noteMissing_composed (field : String) (p : Path) : (noteMissing field p).Composed := by
  refine (composed_ask _ _).bind fun found => ?_
  cases found with
  | true => exact .pure ()
  | false => exact .log _ _ _ (by decide)

theorem checkData_composed (root : ProjectRoot) (sourceDir : String)
    (l : List (String × String)) : (checkData root sourceDir l).Composed := by
  induction l with
  | nil => exact .pure ()
  | cons entry l ih =>
    exact (composed_ofExcept _ _).bind fun _ => (noteMissing_composed _ _).bind fun _ => ih

theorem validate_composed (root : ProjectRoot) (s : Site) : (validate root s).Composed :=
  (composed_ofExcept _ _).bind fun _ => checkData_composed root _ _

end Settings

theorem Submodules.update_composed (s : Submodules) (root : ProjectRoot) :
    (s.update root).Composed := by
  refine .within _ (.bind (.log _ _ _ (by decide)) fun _ => ?_)
  refine .look (fun _ _ => rfl) fun setting => (composed_start _).bind fun status => ?_
  cases status.succeeded with
  | true => exact .pure ()
  | false => exact .bind (.log _ _ _ (by decide)) fun _ => .throw _

theorem Builder.build_composed (b : Builder) (root : ProjectRoot) (forwarded : List String) :
    (b.build root forwarded).Composed := by
  refine .within _ (.bind (.log _ _ _ (by decide)) fun _ => ?_)
  refine .look (fun _ _ => rfl) fun setting => (composed_start _).bind fun status => ?_
  cases status.succeeded with
  | true => exact .pure _
  | false => exact .bind (.log _ _ _ (by decide)) fun _ => .bind (.throw _) fun _ => .pure _

theorem LaunchSteps.launch_composed (s : Submodules) (b : Builder) (root : ProjectRoot)
    (o : LaunchOptions) : ((processes s b).launch root o).Composed := by
  unfold launch
  have hbuild (synced : Bool) : (do
      let exitCode ← (processes s b).build root o.forwarded
      (processes s b).finished
      return (⟨exitCode, synced⟩ : Launched)).Composed :=
    (b.build_composed root _).bind fun _ => .bind (.log _ _ _ (by decide)) fun _ => .pure _
  cases o.sync with
  | true => exact (s.update_composed root).bind fun _ => hbuild true
  | false => exact hbuild false

namespace Program

theorem resolveRoot_composed (entry : Path) : (resolveRoot entry).Composed :=
  composed_cwd.bind fun _ => composed_ofExcept _ _

theorem passOn_composed (f : Fault) : (passOn f).Composed := by
  unfold passOn
  split
  · exact .throw f
  · exact .bind (.log _ _ _ (by decide)) fun _ => .pure _

/-- The steps of a launch are those that were prepared, so both are taken together. -/
theorem runLaunch_composed (entry : Path) (sync : Option Bool) (forwarded : List String) :
    (runLaunch entry sync forwarded).Composed := by
  rw [runLaunch, prepare]
  simp only [bind_assoc, pure_bind]
  refine (resolveRoot_composed entry).bind fun root => ?_
  refine (Settings.load_composed root).bind fun settings => ?_
  refine (Settings.validate_composed root settings.site).bind fun _ => ?_
  refine (composed_ofExcept _ _).bind fun builder => .bind (.log _ _ _ (by decide)) fun _ => ?_
  refine .tryCatch (.within _ ?_) passOn_composed
  exact (LaunchSteps.launch_composed _ builder root _).bind fun _ => .pure _

theorem runRoot_composed (entry : Path) : (runRoot entry).Composed :=
  (resolveRoot_composed entry).bind fun _ => (composed_printLine _).bind fun _ => .pure _

theorem runInit_composed (dir : Option Path) (force : Bool) : (runInit dir force).Composed :=
  composed_cwd.bind fun _ => (Settings.init_composed _ _).bind fun _ =>
    (composed_printLine _).bind fun _ => .pure _

theorem runDisplay_composed (entry : Path) (json : Bool) : (runDisplay entry json).Composed :=
  (resolveRoot_composed entry).bind fun root => (Settings.load_composed root).bind fun _ =>
    (composed_printLine _).bind fun _ => .pure _

theorem runCheck_composed (entry : Path) : (runCheck entry).Composed := by
  refine (resolveRoot_composed entry).bind fun root => (composed_ask _ _).bind fun found => ?_
  cases found with
  | false => exact .throw (.noSettingsFile root.path)
  | true =>
    refine (Settings.load_composed root).bind fun settings => ?_
    refine (Settings.validate_composed root settings.site).bind fun _ => ?_
    exact (composed_ofExcept _ _).bind fun _ => (composed_printLine _).bind fun _ => .pure _

theorem perform_composed (command : Command) : (perform command).Composed := by
  cases command with
  | run sync entry forwarded => exact runLaunch_composed entry sync forwarded
  | root entry => exact runRoot_composed entry
  | init dir force => exact runInit_composed dir force
  | display entry json => exact runDisplay_composed entry json
  | check entry => exact runCheck_composed entry

end Program

/-- The number of `-v` from which on entries of a level are shown. -/
def Level.verbosity : Level → Nat
  | .info => 1
  | .debug => 2

theorem LogFilter.ruleFor?_ofVerbosity {r : Record} (hown : isOwnArea r.area = true) (n : Nat) :
    (ofVerbosity n).ruleFor? r =
      some { area? := some "docmake", rank := min (n + 2) LogRule.everything } := by
  have hcovers (rank : Nat) : ({ area? := some "docmake", rank } : LogRule).covers r = true :=
    Bool.and_eq_true_iff.mpr ⟨hown, rfl⟩
  rw [ruleFor?, ofVerbosity, List.filter_cons_of_pos]
  · rfl
  · exact hcovers _

/-- Of the program's own entries those up to a level are shown, whatever spans they lie in. -/
theorem LogFilter.shows_ofVerbosity {r : Record} (hown : isOwnArea r.area = true) (n : Nat) :
    (ofVerbosity n).shows r = decide (r.level.verbosity ≤ n) := by
  have hspans : (r.spans.any fun s =>
      ((ofVerbosity n).ranksIn s).any fun rank => decide (r.level.rank ≤ rank)) = false := by
    rw [List.any_eq_false]
    exact fun s _ => Bool.false_ne_true
  have hrank : r.level.rank ≤ min (n + 2) LogRule.everything ↔ r.level.verbosity ≤ n := by
    rw [LogRule.everything]
    cases r.level <;> simp only [Level.rank, Level.verbosity] <;> omega
  rw [shows, hspans, Bool.or_false, ruleFor?_ofVerbosity hown]
  exact decide_eq_decide.mpr hrank

namespace Program

variable {setting : Setting} {files : FileSystem} {flags flags' : List LeadingFlag} {name : String}
  {rest : List String}

/-- What a run logs, shown or not, prints and starts, in order; nothing without a command. -/
def events (setting : Setting) (files : FileSystem) (args : List String) : List Event :=
  match Invocation.ofArguments (setting.env.get? entryVariable) args with
  | .error _ => []
  | .ok invocation => ((perform invocation.command).run setting ⟨files, []⟩).2.events

def logText (format : LogFormat) (log : List Record) : String :=
  String.join (log.map fun r => r.line format ++ "\n")

theorem log_stopped (files : FileSystem) (stop : Stop) : (stopped files stop).log = [] := by
  cases stop <;> rfl

theorem log_finished (format : LogFormat) (n : Nat) (result : Except Fault Int) {w : World}
    (hw : w.LogsOwn) :
    (finished format (.ofVerbosity (min 255 n)) result w).log =
      (w.events.filterMap Event.record?).filter fun r => r.level.verbosity ≤ n := by
  refine List.filter_congr fun r hr => ?_
  rw [LogFilter.shows_ofVerbosity (hw r hr)]
  refine decide_eq_decide.mpr ?_
  cases r.level <;> simp only [Level.verbosity] <;> omega

theorem log_finished_sublist (format format' : LogFormat) {n n' : Nat} (hn : n ≤ n')
    (result : Except Fault Int) {w : World} (hw : w.LogsOwn) :
    (finished format (.ofVerbosity (min 255 n)) result w).log.Sublist
      (finished format' (.ofVerbosity (min 255 n')) result w).log := by
  rw [log_finished _ _ _ hw, log_finished _ _ _ hw]
  apply List.monotone_filter_right
  intro r hr
  exact decide_eq_true (Nat.le_trans (of_decide_eq_true hr) hn)

theorem events_tokens (hformat : (flags.filterMap LeadingFlag.format?).length ≤ 1)
    (hname : name.toList.head? ≠ some '-') (rest : List String) :
    events setting files (flags.flatMap LeadingFlag.tokens ++ name :: rest) =
      match Arguments.parseCommand (setting.env.get? entryVariable) name rest with
      | .error _ => []
      | .ok command => ((perform command).run setting ⟨files, []⟩).2.events := by
  rw [events, Arguments.ofArguments_tokens flags rest hformat hname]
  cases Arguments.parseCommand (setting.env.get? entryVariable) name rest <;> rfl

theorem run_tokens (hfilter : setting.env.get? filterVariable = none)
    (hformat : (flags.filterMap LeadingFlag.format?).length ≤ 1)
    (hname : name.toList.head? ≠ some '-') (rest : List String) :
    run setting files (flags.flatMap LeadingFlag.tokens ++ name :: rest) =
      match Arguments.parseCommand (setting.env.get? entryVariable) name rest with
      | .error stop => stopped files stop
      | .ok command =>
        let r := (perform command).run setting ⟨files, []⟩
        finished ((flags.filterMap LeadingFlag.format?).head?.getD .text)
          (.ofVerbosity (min 255 (flags.map LeadingFlag.weight).sum)) r.1 r.2 := by
  rw [run, Arguments.ofArguments_tokens flags rest hformat hname]
  cases Arguments.parseCommand (setting.env.get? entryVariable) name rest with
  | error stop => rfl
  | ok command =>
    simp only [bind, Except.bind, hfilter]
    rfl

/--
Whatever the flags before a command say about the log, the run is the same but for its log. The log
is all that the program logs in the run up to the level that is asked for, so a louder one only has
more entries. No command depends on what has been logged or on the spans that it runs in.
-/
theorem logging_never_interferes (hfilter : setting.env.get? filterVariable = none)
    (files : FileSystem) (hformat : (flags.filterMap LeadingFlag.format?).length ≤ 1)
    (hformat' : (flags'.filterMap LeadingFlag.format?).length ≤ 1)
    (hname : name.toList.head? ≠ some '-') (rest : List String) :
    let args := flags.flatMap LeadingFlag.tokens ++ name :: rest
    let args' := flags'.flatMap LeadingFlag.tokens ++ name :: rest
    let o := run setting files args
    let o' := run setting files args'
    let verbosity := (flags.map LeadingFlag.weight).sum
    let verbosity' := (flags'.map LeadingFlag.weight).sum
    let format := (flags.filterMap LeadingFlag.format?).head?.getD .text
    let format' := (flags'.filterMap LeadingFlag.format?).head?.getD .text
    (o.code = o'.code ∧ o.output = o'.output ∧ o.report = o'.report ∧ o.files = o'.files) ∧
      events setting files args = events setting files args' ∧
      (∃ trouble, o.errors = logText format o.log ++ trouble ∧
        o'.errors = logText format' o'.log ++ trouble) ∧
      o.log = ((events setting files args).filterMap Event.record?).filter
        (fun r => r.level.verbosity ≤ verbosity) ∧
      (verbosity ≤ verbosity' → o.log.Sublist o'.log) ∧
      ∀ command, (perform command).Heedless := by
  intro args args' o o' verbosity verbosity' format format'
  have hevents : events setting files args = _ := events_tokens hformat hname rest
  have hevents' : events setting files args' = _ := events_tokens hformat' hname rest
  have ho : o = _ := run_tokens hfilter hformat hname rest
  have ho' : o' = _ := run_tokens hfilter hformat' hname rest
  rw [hevents, hevents', ho, ho']
  have hheedless (command : Command) : (perform command).Heedless :=
    (perform_composed command).heedless
  cases Arguments.parseCommand (setting.env.get? entryVariable) name rest with
  | error stop =>
    have hlog : (stopped files stop).log = [] := log_stopped files stop
    have herrors (format : LogFormat) : (stopped files stop).errors =
        logText format (stopped files stop).log ++ (stopped files stop).errors := by
      rw [hlog]
      exact String.empty_append.symm
    exact ⟨⟨rfl, rfl, rfl, rfl⟩, rfl, ⟨_, herrors _, herrors _⟩, hlog, fun _ => .refl _, hheedless⟩
  | ok command =>
    have hown : ((perform command).run setting ⟨files, []⟩).2.LogsOwn :=
      (perform_composed command).logsOwn setting ⟨files, []⟩ (List.forall_mem_nil _)
    refine ⟨⟨rfl, rfl, rfl, rfl⟩, rfl, ⟨_, rfl, rfl⟩, ?_, fun hverbosity => ?_, hheedless⟩
    · exact log_finished _ _ _ hown
    · exact log_finished_sublist _ _ hverbosity _ hown

theorem logging_never_interferes_of_missing_settings :
    let quiet := run Setting.barren .empty ["run", "/docs/make"]
    let loud := run Setting.barren .empty ["-vv", "--log-format", "json", "run", "/docs/make"]
    quiet.code = loud.code ∧ quiet.report = loud.report ∧ quiet.log = [] ∧
      loud.log.map Record.level = [.debug] := by
  obtain ⟨⟨hcode, -, hreport, -⟩, -, -, hquiet, -⟩ :=
    @logging_never_interferes Setting.barren [] [.verbose 1, .format .json] "run" rfl .empty
      (by decide) (by decide) (by decide) ["/docs/make"]
  obtain ⟨-, hevents, -, hloud, -⟩ :=
    @logging_never_interferes Setting.barren [.verbose 1, .format .json] [] "run" rfl .empty
      (by decide) (by decide) (by decide) ["/docs/make"]
  refine ⟨hcode, hreport, hquiet.trans ?none, ?all⟩
  case none =>
    refine List.filter_eq_nil_iff.mpr fun r _ => ?_
    cases r.level <;> decide
  case all =>
    have hall : ∀ r ∈ (events Setting.barren .empty ["run", "/docs/make"]).filterMap Event.record?,
        decide (r.level.verbosity ≤ 2) = true := by
      intro r _
      cases r.level <;> decide
    rw [hevents] at hloud
    refine (congrArg (List.map Record.level) (hloud.trans (List.filter_eq_self.mpr hall))).trans ?_
    decide +kernel

end Program
end DocLaunch
