import DocLaunch.Proofs.CommandLine.Run

namespace DocLaunch.Program

open Activity

/-- What a check gives: the stages of a run, but the settings file has to be there. -/
def checked (entry : Path) (setting : Setting) (files : FileSystem) : Except Fault Unit := do
  let root ← (resolveRoot entry).answer setting files
  if files.isThere setting.cwd root.settingsPath then
    let settings ← (Settings.load root).answer setting files
    (Settings.validate root settings.site).answer setting files
    let _ ← (Builder.ofCommand settings.launcher.builder).mapError Fault.settings
    return ()
  else .error (.noSettingsFile root.path)

theorem runCheck_runs (entry : Path) (setting : Setting) (files : FileSystem) :
    (runCheck entry).Runs setting files ((fun _ => 0) <$> checked entry setting files)
      files [] := by
  simp only [checked, map_bind]
  refine (resolveRoot_looks entry).bind_runs fun root => ?_
  refine ((looks_ask _ _).runs rfl).bind ?_
  cases files.isThere setting.cwd root.settingsPath with
  | false => exact ((looks_throw _).runs rfl).bind_error
  | true =>
    simp only [if_true, map_bind, map_pure]
    refine (Settings.load_looks root).bind_runs fun settings => ?_
    refine (Settings.validate_looks root settings.site).bind_runs fun _ => ?_
    rw [← answer_ofExcept]
    refine (looks_ofExcept _ _).bind_runs fun _ => ?_
    exact ((looks_printLine _).bind fun _ => looks_pure _).runs rfl

theorem builder_eq_command {α : Type} (settings : Settings) (a : α) :
    ((Builder.ofSettings settings).mapError Fault.settings >>= fun _ => pure a) =
      ((Builder.ofCommand settings.launcher.builder).mapError Fault.settings >>=
        fun _ => pure a) := by
  unfold Builder.ofSettings
  cases Builder.ofCommand settings.launcher.builder <;> rfl

variable {entry : Path} {sync : Option Bool} {forwarded : List String} {setting : Setting}
  {files : FileSystem}

theorem plan_eq_checked (hthere : ∀ root, (resolveRoot entry).answer setting files = .ok root →
      files.isThere setting.cwd root.settingsPath = true) :
    (fun _ => ()) <$> plan entry sync forwarded setting files = checked entry setting files := by
  simp only [plan, checked, map_bind, map_pure, builder_eq_command]
  cases hroot : (resolveRoot entry).answer setting files with
  | error f => rfl
  | ok root => exact (if_pos (hthere root hroot)).symm

theorem plan_of_missing {root : ProjectRoot}
    (hroot : (resolveRoot entry).answer setting files = .ok root)
    (hmissing : files.isThere setting.cwd root.settingsPath = false) :
    plan entry sync forwarded setting files = .error (.settings .noBuilder) := by
  simp only [plan, hroot, Settings.load_answer_of_missing hmissing, bind, Except.bind]
  rw [Settings.validate_answer]
  rfl

theorem checked_of_missing {root : ProjectRoot}
    (hroot : (resolveRoot entry).answer setting files = .ok root)
    (hmissing : files.isThere setting.cwd root.settingsPath = false) :
    checked entry setting files = .error (.noSettingsFile root.path) := by
  simp only [checked, hroot, hmissing, bind, Except.bind]
  rfl

theorem check_result :
    ((runCheck entry).run setting ⟨files, []⟩).1 = (fun _ => 0) <$> checked entry setting files :=
  (runCheck_runs entry setting files ⟨files, []⟩ rfl).1

theorem exists_plan_iff_checked :
    (∃ p, plan entry sync forwarded setting files = .ok p) ↔
      checked entry setting files = .ok () := by
  by_cases hthere : ∀ root, (resolveRoot entry).answer setting files = .ok root →
      files.isThere setting.cwd root.settingsPath = true
  · rw [← plan_eq_checked hthere]
    cases plan entry sync forwarded setting files with
    | error f => exact ⟨nofun, nofun⟩
    | ok p => exact ⟨fun _ => rfl, fun _ => ⟨p, rfl⟩⟩
  · obtain ⟨root, hthere⟩ := Classical.not_forall.mp hthere
    obtain ⟨hroot, hmissing⟩ := Classical.not_imp.mp hthere
    rw [Bool.not_eq_true] at hmissing
    rw [plan_of_missing hroot hmissing, checked_of_missing hroot hmissing]
    exact ⟨nofun, nofun⟩

theorem exists_plan_iff_started :
    (∃ p, plan entry sync forwarded setting files = .ok p) ↔
      ((runLaunch entry sync forwarded).run setting ⟨files, []⟩).2.started ≠ [] := by
  cases hplan : plan entry sync forwarded setting files with
  | error f => exact ⟨nofun, fun h => absurd (run_of_fault hplan).2 h⟩
  | ok p =>
    rw [(run_of_plan hplan).2]
    exact ⟨fun _ => Plan.children_ne_nil, fun _ => ⟨p, rfl⟩⟩

/--
A check goes well just if a run of the same project comes to its launch, and so starts something.
Without a settings file both fail; if it is there, or if there is no root, then the fault of the
check is that of the run, and nothing is started.
-/
theorem check_predicts_run (entry : Path) (sync : Option Bool) (forwarded : List String)
    (setting : Setting) (files : FileSystem) :
    let check := (runCheck entry).run setting ⟨files, []⟩
    let run := (runLaunch entry sync forwarded).run setting ⟨files, []⟩
    ((∃ code, check.1 = .ok code) ↔ ∃ p, plan entry sync forwarded setting files = .ok p) ∧
      ((∃ code, check.1 = .ok code) ↔ run.2.started ≠ []) ∧
      (∀ root, (resolveRoot entry).answer setting files = .ok root →
        files.isThere setting.cwd root.settingsPath = false →
          check.1 = .error (.noSettingsFile root.path) ∧
            run.1 = .error (.settings .noBuilder) ∧ run.2.started = []) ∧
      (∀ f, check.1 = .error f →
        (∀ root, (resolveRoot entry).answer setting files = .ok root →
          files.isThere setting.cwd root.settingsPath = true) →
            run.1 = .error f ∧ run.2.started = []) := by
  intro check run
  have hcheck : check.1 = (fun _ => 0) <$> checked entry setting files := check_result
  have hplan : (∃ code, check.1 = .ok code) ↔
      ∃ p, plan entry sync forwarded setting files = .ok p := by
    rw [exists_plan_iff_checked, hcheck]
    cases checked entry setting files with
    | error f => exact ⟨nofun, nofun⟩
    | ok => exact ⟨fun _ => rfl, fun _ => ⟨0, rfl⟩⟩
  refine ⟨hplan, hplan.trans exists_plan_iff_started, ?missing, ?same⟩
  case missing =>
    intro root hroot hmissing
    rw [hcheck, checked_of_missing hroot hmissing]
    exact ⟨rfl, run_of_fault (plan_of_missing hroot hmissing)⟩
  case same =>
    intro f hf hthere
    rw [hcheck, ← plan_eq_checked hthere] at hf
    cases hfault : plan entry sync forwarded setting files with
    | error f' =>
      rw [hfault] at hf
      cases hf
      exact run_of_fault hfault
    | ok p =>
      rw [hfault] at hf
      cases hf

end DocLaunch.Program
