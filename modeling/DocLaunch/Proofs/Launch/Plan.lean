import DocLaunch.Proofs.Launch.Steps

namespace DocLaunch

open Activity

/-- All that a launch starts from. -/
structure Plan where
  root : ProjectRoot
  options : LaunchOptions
  submodules : Submodules
  builder : Builder

namespace Plan

variable (p : Plan) (setting : Setting) (files : FileSystem)

def syncRequest : Spawn :=
  p.submodules.spawn setting.env p.root

def syncChild : Child :=
  setting.child (p.syncRequest setting) files

def synced : FileSystem :=
  if p.options.sync then (p.syncChild setting files).files else files

def buildRequest : Spawn :=
  p.builder.spawn setting p.root p.options.forwarded

def buildChild : Child :=
  setting.child (p.buildRequest setting) (p.synced setting files)

/-- Whether it comes to the builder: no synchronization is wanted, or it went well. -/
def builds : Bool :=
  !p.options.sync || (p.syncChild setting files).succeeded

def children : List (Spawn × Child) :=
  (if p.options.sync then [(p.syncRequest setting, p.syncChild setting files)] else []) ++
    if p.builds setting files then [(p.buildRequest setting, p.buildChild setting files)] else []

def left : FileSystem :=
  if p.builds setting files then (p.buildChild setting files).files else p.synced setting files

def syncFault : Int → Fault :=
  .syncFailed (Spawn.commandText p.submodules.git p.submodules.arguments)

def buildFault : Int → Fault :=
  .buildFailed (Spawn.commandText p.builder.program
    (p.builder.arguments p.root p.options.forwarded))

def built : Except Fault Int :=
  ((p.buildChild setting files).awaited (p.buildRequest setting) p.buildFault).map
    fun status => (status.exitCode : Int)

def result : Except Fault Int :=
  if p.options.sync then do
    let _ ← (p.syncChild setting files).awaited (p.syncRequest setting) p.syncFault
    p.built setting files
  else p.built setting files

/-- It comes to the builder, and that ends with success. -/
def Succeeds : Prop :=
  p.builds setting files = true ∧ (p.buildChild setting files).succeeded = true

/-- A child ends without success in such a way. -/
def FailsWith (ending : Ending) : Prop :=
  ∃ c ∈ p.children setting files, ∃ status : WaitStatus,
    c.2.result = .ok status ∧ status.Ends ending ∧ ending ≠ .exited 0

/-- A child cannot be started, and this is the fault. -/
def StopsWith (f : Fault) : Prop :=
  ∃ c ∈ p.children setting files, ∃ cause : SystemFault,
    c.2.result = .error cause ∧ f = .spawn c.1.shownProgram cause

def steps : LaunchSteps Activity :=
  .processes p.submodules p.builder

theorem built_runs :
    (p.steps.build p.root p.options.forwarded >>= fun exitCode =>
      p.steps.finished >>= fun _ => pure (⟨exitCode, p.options.sync⟩ : Launched)).Runs setting
      (p.synced setting files) ((p.built setting files).map (⟨·, p.options.sync⟩))
      (p.buildChild setting files).files
      [(p.buildRequest setting, p.buildChild setting files)] := by
  have hbuild : (p.steps.build p.root p.options.forwarded).Runs setting (p.synced setting files)
      (p.built setting files) _ _ := p.builder.build_runs p.root p.options.forwarded
  cases hbuilt : p.built setting files with
  | error f =>
    rw [hbuilt] at hbuild
    exact hbuild.bind_error
  | ok exitCode =>
    rw [hbuilt] at hbuild
    exact hbuild.bind (((looks_log _ _ _ _).bind fun _ => looks_pure _).runs rfl)

theorem launch_runs :
    (p.steps.launch p.root p.options).Runs setting files
      ((p.result setting files).map (⟨·, p.options.sync⟩))
      (p.left setting files) (p.children setting files) := by
  have hbuilt := p.built_runs setting files
  unfold LaunchSteps.launch result left children builds
  cases hsync : p.options.sync with
  | false =>
    have hsame : p.synced setting files = files := by simp [synced, hsync]
    rw [hsame, hsync] at hbuilt
    exact hbuilt
  | true =>
    have hleft : p.synced setting files = (p.syncChild setting files).files := by
      simp [synced, hsync]
    rw [hleft, hsync] at hbuilt
    have hupdate : (p.steps.sync p.root).Runs setting files _ _ _ :=
      p.submodules.update_runs p.root
    change Runs _ _ _ (((p.syncChild setting files).awaited (p.syncRequest setting)
      p.syncFault).map _) _ _ at hupdate
    cases hsucceeded : (p.syncChild setting files).succeeded with
    | true =>
      obtain ⟨status, hawaited, -⟩ :=
        Child.awaited_of_succeeded (p.syncRequest setting) p.syncFault hsucceeded
      rw [hawaited] at hupdate ⊢
      exact hupdate.bind hbuilt
    | false =>
      obtain ⟨f, hawaited⟩ :=
        Child.awaited_of_failed (p.syncRequest setting) p.syncFault hsucceeded
      rw [hawaited] at hupdate ⊢
      rw [hleft]
      exact hupdate.bind_error

variable {p setting files}

theorem mem_children {c : Spawn × Child} :
    c ∈ p.children setting files ↔
      p.options.sync = true ∧ c = (p.syncRequest setting, p.syncChild setting files) ∨
        p.builds setting files = true ∧
          c = (p.buildRequest setting, p.buildChild setting files) := by
  unfold children
  rw [List.mem_append]
  cases p.options.sync <;> cases p.builds setting files <;> simp

theorem children_ne_nil : p.children setting files ≠ [] := by
  unfold children builds
  cases p.options.sync with
  | true => exact List.cons_ne_nil _ _
  | false => exact List.cons_ne_nil _ _

theorem result_of_builds (h : p.builds setting files = true) :
    p.result setting files = p.built setting files := by
  unfold result
  cases hsync : p.options.sync with
  | false => rfl
  | true =>
    have hsucceeded : (p.syncChild setting files).succeeded = true := by
      simpa [builds, hsync] using h
    obtain ⟨status, hawaited, -⟩ :=
      Child.awaited_of_succeeded (p.syncRequest setting) p.syncFault hsucceeded
    rw [hawaited]
    rfl

theorem result_of_succeeds (h : p.Succeeds setting files) : p.result setting files = .ok 0 := by
  obtain ⟨hbuilds, hsucceeded⟩ := h
  obtain ⟨status, hawaited, hcode⟩ :=
    Child.awaited_of_succeeded (p.buildRequest setting) p.buildFault hsucceeded
  rw [result_of_builds hbuilds, built, hawaited, Except.map, hcode]
  rfl

/-- After a child that fails there is no other, and its fault is that of the launch. -/
theorem result_of_failed {c : Spawn × Child} (hc : c ∈ p.children setting files)
    (hfailed : c.2.succeeded = false) :
    ∃ failed : Int → Fault, (∀ code, (failed code).childCode? = some code) ∧
      p.result setting files = (c.2.awaited c.1 failed).map fun _ => 0 := by
  rcases mem_children.mp hc with ⟨hsync, rfl⟩ | ⟨hbuilds, rfl⟩
  · obtain ⟨f, hawaited⟩ := Child.awaited_of_failed (p.syncRequest setting) p.syncFault hfailed
    refine ⟨p.syncFault, fun _ => rfl, ?_⟩
    rw [result, if_pos hsync, hawaited]
    rfl
  · obtain ⟨f, hawaited⟩ := Child.awaited_of_failed (p.buildRequest setting) p.buildFault hfailed
    refine ⟨p.buildFault, fun _ => rfl, ?_⟩
    rw [result_of_builds hbuilds, built, hawaited]
    rfl

theorem result_of_unsuccessful {c : Spawn × Child} (hc : c ∈ p.children setting files)
    {status : WaitStatus} (hstatus : c.2.result = .ok status)
    (hfailed : status.succeeded = false) :
    ∃ f : Fault, f.childCode? = some (status.exitCode : Int) ∧
      p.result setting files = .error f := by
  have hchild : c.2.succeeded = false := by
    rw [Child.succeeded, hstatus]
    exact hfailed
  obtain ⟨failed, hcode, hresult⟩ := result_of_failed hc hchild
  refine ⟨failed status.exitCode, hcode _, ?_⟩
  rw [hresult, Child.awaited, hstatus]
  simp [hfailed, Except.map]

theorem result_of_failsWith {ending : Ending} (h : p.FailsWith setting files ending) :
    ∃ (code : Nat) (f : Fault), ending.code? = some code ∧ code ≤ 255 ∧ code ≠ 0 ∧
      f.childCode? = some (code : Int) ∧ p.result setting files = .error f := by
  obtain ⟨c, hc, status, hstatus, hends, hbad⟩ := h
  have hfailed : status.succeeded = false :=
    Bool.eq_false_iff.mpr fun hsuccess => hbad (hends.succeeded_iff.mp hsuccess)
  have hne : status.exitCode ≠ 0 := by
    rw [Ne, hends.exitCode_eq_zero_iff, hfailed]
    exact Bool.false_ne_true
  obtain ⟨f, hcode, hresult⟩ := result_of_unsuccessful hc hstatus hfailed
  exact ⟨status.exitCode, f, hends.code?_eq, status.exitCode_le, hne, hcode, hresult⟩

theorem result_of_stopsWith {f : Fault} (h : p.StopsWith setting files f) :
    f.childCode? = none ∧ p.result setting files = .error f := by
  obtain ⟨c, hc, cause, hcause, rfl⟩ := h
  obtain ⟨failed, -, hresult⟩ := result_of_failed hc (by rw [Child.succeeded, hcause])
  rw [Child.awaited, hcause] at hresult
  exact ⟨rfl, hresult⟩

theorem exists_child_of_mem {c : Spawn × Child} (hc : c ∈ p.children setting files) :
    ∃ files, c.2 = setting.child c.1 files := by
  rcases mem_children.mp hc with ⟨-, rfl⟩ | ⟨-, rfl⟩
  · exact ⟨files, rfl⟩
  · exact ⟨p.synced setting files, rfl⟩

theorem succeeds_or_failed (p : Plan) (setting : Setting) (files : FileSystem) :
    p.Succeeds setting files ∨ ∃ c ∈ p.children setting files, c.2.succeeded = false := by
  cases hbuilds : p.builds setting files with
  | true =>
    cases hsucceeded : (p.buildChild setting files).succeeded with
    | true => exact .inl ⟨hbuilds, hsucceeded⟩
    | false => exact .inr ⟨_, mem_children.mpr (.inr ⟨hbuilds, rfl⟩), hsucceeded⟩
  | false =>
    obtain ⟨hsync, hfailed⟩ : p.options.sync = true ∧
        (p.syncChild setting files).succeeded = false := by
      simpa [builds] using hbuilds
    exact .inr ⟨_, mem_children.mpr (.inl ⟨hsync, rfl⟩), hfailed⟩

/-- Every launch goes in one of three ways. -/
theorem ways (p : Plan) (files : FileSystem) (hends : setting.ChildrenEnd) :
    p.Succeeds setting files ∨ (∃ ending, p.FailsWith setting files ending) ∨
      ∃ f, p.StopsWith setting files f := by
  rcases p.succeeds_or_failed setting files with h | ⟨c, hc, hfailed⟩
  · exact .inl h
  · right
    cases hresult : c.2.result with
    | error cause => exact .inr ⟨_, c, hc, cause, hresult, rfl⟩
    | ok status =>
      obtain ⟨files', hchild⟩ := exists_child_of_mem hc
      obtain ⟨ending, hending⟩ := hends.child (by rwa [hchild] at hresult)
      refine .inl ⟨ending, c, hc, status, hresult, hending, fun hzero => ?_⟩
      rw [Child.succeeded, hresult] at hfailed
      exact absurd (hending.succeeded_iff.mpr hzero) (Bool.eq_false_iff.mp hfailed)

end Plan
end DocLaunch
