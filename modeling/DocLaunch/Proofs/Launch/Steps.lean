import DocLaunch.Launch.Basic
import DocLaunch.Proofs.Process.Status
import DocLaunch.Proofs.World.Activity

namespace DocLaunch

namespace Child

def succeeded (c : Child) : Bool :=
  match c.result with
  | .ok status => status.succeeded
  | .error _ => false

/-- What waiting for the child gives where its failure is passed on. -/
def awaited (c : Child) (s : Spawn) (failed : Int → Fault) : Except Fault WaitStatus :=
  match c.result with
  | .ok status => if status.succeeded then .ok status else .error (failed status.exitCode)
  | .error e => .error (.spawn s.shownProgram e)

variable {c : Child}

theorem awaited_of_succeeded (s : Spawn) (failed : Int → Fault) (h : c.succeeded = true) :
    ∃ status : WaitStatus, c.awaited s failed = .ok status ∧ status.exitCode = 0 := by
  obtain ⟨result, files, output, complained⟩ := c
  cases result with
  | error e => exact absurd h Bool.false_ne_true
  | ok status => exact ⟨status, if_pos h, WaitStatus.exitCode_of_succeeded h⟩

theorem awaited_of_failed (s : Spawn) (failed : Int → Fault) (h : c.succeeded = false) :
    ∃ f, c.awaited s failed = .error f := by
  obtain ⟨result, files, output, complained⟩ := c
  cases result with
  | error e => exact ⟨_, rfl⟩
  | ok status => exact ⟨_, if_neg (Bool.eq_false_iff.mp h)⟩

end Child

/-- Whatever is started ends, with an exit code or by a signal. -/
def Setting.ChildrenEnd (setting : Setting) : Prop :=
  ∀ s files status, (setting.children s files).result = .ok status → ∃ e, status.Ends e

variable {setting : Setting} {files : FileSystem}

theorem Setting.ChildrenEnd.child (h : setting.ChildrenEnd) {s : Spawn} {status : WaitStatus}
    (hresult : (setting.child s files).result = .ok status) : ∃ e, status.Ends e := by
  unfold Setting.child at hresult
  split at hresult
  · cases hresult
  · exact h s files status hresult

open Activity

/-- A step that starts a process and then only tells how it ended. -/
theorem awaited_runs {α : Type} (s : Spawn) {next : WaitStatus → Activity α} (failed : Int → Fault)
    (done : WaitStatus → α)
    (hnext : ∀ status files, (next status).Runs setting files
      (if status.succeeded then .ok (done status) else .error (failed status.exitCode)) files []) :
    (start s >>= next).Runs setting files
      (((setting.child s files).awaited s failed).map done)
      (setting.child s files).files [(s, setting.child s files)] := by
  have hstart : (start s).Runs setting files _ _ _ := start_runs s
  generalize setting.child s files = child at hstart
  obtain ⟨result, left, output, complained⟩ := child
  cases result with
  | error e => exact hstart.bind_error
  | ok status =>
    have hrun := hstart.bind (hnext status left)
    cases hsuccess : status.succeeded <;> simpa [Child.awaited, hsuccess, Except.map] using hrun

theorem Builder.ofSettings_eq_ok {settings : Settings} {b : Builder}
    (h : ofSettings settings = .ok b) :
    settings.launcher.builder = b.program :: b.fixedArgs ∧ b.env = settings.launcher.env ∧
      b.siteText = some settings.site.toJsonText := by
  rw [ofSettings] at h
  cases hcommand : settings.launcher.builder with
  | nil =>
    rw [hcommand] at h
    cases h
  | cons program fixedArgs =>
    rw [hcommand, ofCommand] at h
    split at h
    · cases h
    · cases h
      exact ⟨rfl, rfl, rfl⟩

theorem Submodules.update_runs (s : Submodules) (root : ProjectRoot) :
    let request := s.spawn setting.env root
    let child := setting.child request files
    (s.update root).Runs setting files
      ((child.awaited request (.syncFailed (Spawn.commandText s.git s.arguments))).map fun _ => ())
      child.files [(request, child)] := by
  intro request child
  refine Runs.within ?_
  refine ((looks_log _ _ _ _).runs rfl).bind ((looks_read.runs rfl).bind ?_)
  refine awaited_runs request _ _ fun status files => ?_
  cases hsuccess : status.succeeded with
  | true => exact (looks_pure ()).runs rfl
  | false => exact ((looks_log _ _ _ _).bind fun _ => looks_throw _).runs rfl

theorem Builder.build_runs (b : Builder) (root : ProjectRoot) (forwarded : List String) :
    let request := b.spawn setting root forwarded
    let child := setting.child request files
    (b.build root forwarded).Runs setting files
      ((child.awaited request
        (.buildFailed (Spawn.commandText b.program (b.arguments root forwarded)))).map
          fun status => (status.exitCode : Int))
      child.files [(request, child)] := by
  intro request child
  refine Runs.within ?_
  refine ((looks_log _ _ _ _).runs rfl).bind ((looks_read.runs rfl).bind ?_)
  refine awaited_runs request _ _ fun status files => ?_
  cases hsuccess : status.succeeded with
  | true => exact (looks_pure _).runs rfl
  | false =>
    exact ((looks_log _ _ _ _).bind fun _ => (looks_throw _).bind fun _ => looks_pure _).runs rfl

end DocLaunch
