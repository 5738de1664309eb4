import DocLaunch.CommandLine.Program
import DocLaunch.Proofs.CommandLine.Preparation

namespace DocLaunch.Program

open Activity

variable {entry : Path} {sync : Option Bool} {forwarded : List String} {setting : Setting}
  {files : FileSystem}

/-- What is left of a result after the failure of a child has been passed on. -/
def passedOn : Except Fault Int → Except Fault Int
  | .ok code => .ok code
  | .error f => f.childCode?.elim (.error f) .ok

theorem passOn_runs (f : Fault) : (passOn f).Runs setting files (passedOn (.error f)) files [] := by
  unfold passOn passedOn
  simp only
  cases f.childCode? with
  | none => exact (looks_throw f).runs rfl
  | some code => exact ((looks_log _ _ _ _).bind fun _ => looks_pure code).runs rfl

theorem runLaunch_runs_of_fault {f : Fault}
    (h : plan entry sync forwarded setting files = .error f) :
    (runLaunch entry sync forwarded).Runs setting files (.error f) files [] := by
  have hprepare := prepare_runs entry sync forwarded setting files
  rw [h] at hprepare
  exact hprepare.bind_error

theorem runLaunch_runs {p : Plan} (h : plan entry sync forwarded setting files = .ok p) :
    (runLaunch entry sync forwarded).Runs setting files (passedOn (p.result setting files))
      (p.left setting files) (p.children setting files) := by
  have hprepare := prepare_runs entry sync forwarded setting files
  rw [h] at hprepare
  -- The plan reads nothing of the span that its launch lies in.
  have hlaunch := p.launch_runs
    { setting with spans := LaunchSteps.span p.root p.options :: setting.spans } files
  change Runs _ _ _ ((p.result setting files).map _) (p.left setting files)
    (p.children setting files) at hlaunch
  have hrun : (tryCatch (within (LaunchSteps.span p.root p.options) do
      return (← p.steps.launch p.root p.options).exitCode) passOn).Runs setting files
      (passedOn (p.result setting files)) (p.left setting files)
      (p.children setting files ++ []) := by
    cases hresult : p.result setting files with
    | error f =>
      rw [hresult] at hlaunch
      exact (Runs.within hlaunch.bind_error).caught (passOn_runs f)
    | ok code =>
      rw [hresult] at hlaunch
      refine (Runs.within ?_).untroubled
      exact hlaunch.bind ((looks_pure code).runs rfl)
  rw [List.append_nil] at hrun
  exact hprepare.bind (((looks_log _ _ _ _).runs rfl).bind hrun)

theorem exitByte_of_le {code : Nat} (h : code ≤ 255) : exitByte (code : Int) = code := by
  unfold exitByte
  rw [if_pos ⟨Int.natCast_nonneg code, Int.ofNat_le.mpr h⟩, Int.toNat_natCast]

/-- Why a run has a fault of its own: there is no plan, or a child of the plan does not start. -/
def StopsWith (entry : Path) (sync : Option Bool) (forwarded : List String) (setting : Setting)
    (files : FileSystem) (f : Fault) : Prop :=
  plan entry sync forwarded setting files = .error f ∨
    ∃ p, plan entry sync forwarded setting files = .ok p ∧ p.StopsWith setting files f

variable {p : Plan} {format : LogFormat} {filter : LogFilter}

theorem run_of_fault {f : Fault} (h : plan entry sync forwarded setting files = .error f) :
    let r := (runLaunch entry sync forwarded).run setting ⟨files, []⟩
    r.1 = .error f ∧ r.2.started = [] := by
  obtain ⟨hresult, -, hstarted⟩ := runLaunch_runs_of_fault h ⟨files, []⟩ rfl
  exact ⟨hresult, hstarted⟩

theorem run_of_plan (h : plan entry sync forwarded setting files = .ok p) :
    let r := (runLaunch entry sync forwarded).run setting ⟨files, []⟩
    r.1 = passedOn (p.result setting files) ∧ r.2.started = p.children setting files := by
  obtain ⟨hresult, -, hstarted⟩ := runLaunch_runs h ⟨files, []⟩ rfl
  exact ⟨hresult, hstarted⟩

theorem outcome_of_succeeds (h : plan entry sync forwarded setting files = .ok p)
    (hp : p.Succeeds setting files) :
    let r := (runLaunch entry sync forwarded).run setting ⟨files, []⟩
    let o := finished format filter r.1 r.2
    o.code = 0 ∧ o.report = none := by
  intro r o
  have hresult : r.1 = .ok 0 := by
    rw [(run_of_plan h).1, Plan.result_of_succeeds hp]
    rfl
  unfold o
  rw [hresult]
  exact ⟨rfl, rfl⟩

theorem outcome_of_failsWith {ending : Ending} (h : plan entry sync forwarded setting files = .ok p)
    (hp : p.FailsWith setting files ending) :
    let r := (runLaunch entry sync forwarded).run setting ⟨files, []⟩
    let o := finished format filter r.1 r.2
    ending.code? = some o.code ∧ o.code ≠ 0 ∧ o.report = none := by
  intro r o
  obtain ⟨code, f, hcode, hle, hne, hfault, hresult⟩ := Plan.result_of_failsWith hp
  have hpassed : r.1 = .ok (code : Int) := by
    rw [(run_of_plan h).1, hresult, passedOn, hfault]
    rfl
  have hout : o.code = code := by
    unfold o
    rw [hpassed]
    exact exitByte_of_le hle
  refine ⟨by rw [hcode, hout], by rwa [hout], ?_⟩
  unfold o
  rw [hpassed]
  rfl

theorem outcome_of_stopsWith {f : Fault} (h : StopsWith entry sync forwarded setting files f) :
    let r := (runLaunch entry sync forwarded).run setting ⟨files, []⟩
    let o := finished format filter r.1 r.2
    r.1 = .error f ∧ o.code = 1 ∧ o.report = some f.report := by
  intro r o
  have hresult : r.1 = .error f := by
    rcases h with h | ⟨p, h, hp⟩
    · exact (run_of_fault h).1
    · obtain ⟨hfault, hstopped⟩ := Plan.result_of_stopsWith hp
      rw [(run_of_plan h).1, hstopped, passedOn, hfault]
      rfl
  unfold o
  rw [hresult]
  exact ⟨rfl, rfl, rfl⟩

theorem exists_way (entry : Path) (sync : Option Bool) (forwarded : List String)
    (files : FileSystem) (hends : setting.ChildrenEnd) :
    (∃ p, plan entry sync forwarded setting files = .ok p ∧
      (p.Succeeds setting files ∨ ∃ ending, p.FailsWith setting files ending)) ∨
        ∃ f, StopsWith entry sync forwarded setting files f := by
  cases hplan : plan entry sync forwarded setting files with
  | error f => exact .inr ⟨f, .inl hplan⟩
  | ok p =>
    rcases p.ways files hends with hp | hp | ⟨f, hp⟩
    · exact .inl ⟨p, rfl, .inl hp⟩
    · exact .inl ⟨p, rfl, .inr hp⟩
    · exact .inr ⟨f, .inr ⟨p, hplan, hp⟩⟩

/--
The processes of a run are those of its plan, and there are none without a plan. The code is zero
just if the builder was reached and succeeded. A child that fails hands over its code, and nothing
is reported; in all other cases the fault is reported, and the code is one.
-/
theorem runLaunch_outcome (entry : Path) (sync : Option Bool) (forwarded : List String)
    (files : FileSystem) (format : LogFormat) (filter : LogFilter) (hends : setting.ChildrenEnd) :
    let planned := plan entry sync forwarded setting files
    let r := (runLaunch entry sync forwarded).run setting ⟨files, []⟩
    let o := finished format filter r.1 r.2
    (r.2.started ≠ [] → ∃ (root : ProjectRoot) (settings : Settings) (builder : Builder),
        (resolveRoot entry).answer setting files = .ok root ∧
        (Settings.load root).answer setting files = .ok settings ∧
        (Settings.validate root settings.site).answer setting files = .ok () ∧
        Builder.ofSettings settings = .ok builder ∧
        planned = .ok ⟨root, ⟨sync.getD settings.submodules.sync, forwarded⟩, settings.submodules,
          builder⟩) ∧
      (∀ p, planned = .ok p → r.2.started = p.children setting files) ∧
      (o.code = 0 ↔ ∃ p, planned = .ok p ∧ p.Succeeds setting files) ∧
      (o.code = 0 → o.report = none) ∧
      (∀ p ending, planned = .ok p → p.FailsWith setting files ending →
        ending.code? = some o.code ∧ o.report = none) ∧
      ((∀ p, planned = .ok p → ¬ p.Succeeds setting files ∧
          ∀ ending, ¬ p.FailsWith setting files ending) →
        ∃ f, StopsWith entry sync forwarded setting files f ∧
          r.1 = .error f ∧ o.code = 1 ∧ o.report = some f.report) := by
  intro planned r o
  have hzero : o.code = 0 → ∃ p, planned = .ok p ∧ p.Succeeds setting files := by
    intro hcode
    rcases exists_way entry sync forwarded files hends with
      ⟨p, hplan, hp | ⟨ending, hp⟩⟩ | ⟨f, hf⟩
    · exact ⟨p, hplan, hp⟩
    · obtain ⟨-, hne, -⟩ := outcome_of_failsWith hplan hp
      exact absurd hcode hne
    · obtain ⟨-, hone, -⟩ := outcome_of_stopsWith hf
      exact absurd (hone.symm.trans hcode) Nat.one_ne_zero
  refine ⟨fun hstarted => ?planned, fun p hplan => (run_of_plan hplan).2, ⟨hzero, ?zero⟩, ?silent,
    ?failed, fun hother => ?stopped⟩
  case planned =>
    cases hplan : planned with
    | error f => exact absurd (run_of_fault hplan).2 hstarted
    | ok p =>
      obtain ⟨root, settings, builder, hroot, hload, hvalid, hbuilder, rfl⟩ := plan_eq_ok.mp hplan
      exact ⟨root, settings, builder, hroot, hload, hvalid, hbuilder, rfl⟩
  case zero =>
    rintro ⟨p, hplan, hp⟩
    exact (outcome_of_succeeds hplan hp).1
  case silent =>
    intro hcode
    obtain ⟨p, hplan, hp⟩ := hzero hcode
    exact (outcome_of_succeeds hplan hp).2
  case failed =>
    intro p ending hplan hp
    obtain ⟨hcode, -, hreport⟩ := outcome_of_failsWith hplan hp
    exact ⟨hcode, hreport⟩
  case stopped =>
    rcases exists_way entry sync forwarded files hends with
      ⟨p, hplan, hp | ⟨ending, hp⟩⟩ | ⟨f, hf⟩
    · exact absurd hp (hother p hplan).1
    · exact absurd hp ((hother p hplan).2 ending)
    · exact ⟨f, hf, outcome_of_stopsWith hf⟩

/-- A project whose settings name nothing but a builder. -/
def smallProject : FileSystem :=
  ⟨[(["docs"], .directory),
    (["docmake.toml", "docs"], .file "launcher.builder=[\"build\"]".toUTF8 false)]⟩

def terminating : Setting where
  cwd := []
  env := .empty
  children _ files := ⟨.ok (.killed 15), files, "", false⟩

theorem runLaunch_outcome_of_terminated_git :
    terminating.ChildrenEnd ∧
      let r := (runLaunch "/docs/make" (some true) ["html"]).run terminating ⟨smallProject, []⟩
      let o := finished .text (.choose none 0) r.1 r.2
      o.code = 143 ∧ o.report = none := by
  have hends : terminating.ChildrenEnd := by
    intro s files status h
    cases h
    exact ⟨.killed 15, .killed (by decide) (by decide) (Nat.zero_le 1) rfl⟩
  have hplan : plan "/docs/make" (some true) ["html"] terminating smallProject = .ok
      ⟨⟨"/docs"⟩, ⟨true, ["html"]⟩, {}, ⟨"build", [], .empty, some (Site.toJsonText {})⟩⟩ :=
    plan_eq_ok.mpr ⟨⟨"/docs"⟩, { launcher := { builder := ["build"] } }, _, by rfl, by rfl, by rfl,
      by rfl, by rfl⟩
  have hchild : terminating.child (Submodules.spawn {} .empty ⟨"/docs"⟩) smallProject =
      ⟨.ok (.killed 15), smallProject, "", false⟩ := by
    rfl
  obtain ⟨-, -, -, -, hfailed, -⟩ :=
    runLaunch_outcome "/docs/make" (some true) ["html"] smallProject .text (.choose none 0) hends
  obtain ⟨hcode, hreport⟩ := hfailed _ (.killed 15) hplan
    ⟨_, Plan.mem_children.mpr (.inl ⟨rfl, rfl⟩), .killed 15, congrArg Child.result hchild,
      .killed (by decide) (by decide) (Nat.zero_le 1) rfl, nofun⟩
  exact ⟨hends, (Option.some.inj hcode).symm, hreport⟩

end DocLaunch.Program
