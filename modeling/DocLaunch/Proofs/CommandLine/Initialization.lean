import DocLaunch.Proofs.CommandLine.Check
import DocLaunch.Proofs.Project.Resolution
import DocLaunch.Proofs.Settings.Template

namespace DocLaunch.Program

open Activity FileSystem

variable {entry : Path} {setting : Setting} {files : FileSystem} {root : ProjectRoot}
  {sync : Option Bool} {forwarded : List String}

theorem isAbsolute_of_resolveRoot (h : (resolveRoot entry).answer setting files = .ok root) :
    Path.isAbsolute root.path = true := by
  have hanswer : (resolveRoot entry).answer setting files =
      (ProjectRoot.ofEntry entry setting.cwd.toPath).mapError fun f => .validation (.root f) :=
    answer_ofExcept _ _ files
  rw [hanswer] at h
  exact ProjectRoot.isAbsolute_of_ofEntry (ok_of_mapError h)

theorem validate_ofTemplate (root : ProjectRoot) (setting : Setting) (files : FileSystem) :
    (Settings.validate root Settings.ofTemplate.site).answer setting files = .ok () := by
  rw [Settings.validate_answer, Settings.check_ofTemplate]
  rfl

/-- The plan of a run in a project that has the settings of a new file. -/
def planOfTemplate (root : ProjectRoot) (sync : Option Bool) (forwarded : List String) : Plan where
  root
  options := ⟨sync.getD false, forwarded⟩
  submodules := {}
  builder := ⟨"uv", ["run", "docs-make"], .empty, some Settings.ofTemplate.site.toJsonText⟩

theorem plan_of_template (hroot : (resolveRoot entry).answer setting files = .ok root)
    (hload : (Settings.load root).answer setting files = .ok Settings.ofTemplate) :
    plan entry sync forwarded setting files = .ok (planOfTemplate root sync forwarded) :=
  plan_eq_ok.mpr ⟨root, Settings.ofTemplate, _, hroot, hload, validate_ofTemplate root setting files,
    rfl, rfl⟩

theorem check_of_template (hroot : (resolveRoot entry).answer setting files = .ok root)
    (hload : (Settings.load root).answer setting files = .ok Settings.ofTemplate)
    (format : LogFormat) (filter : LogFilter) :
    let r := (runCheck entry).run setting ⟨files, []⟩
    let o := finished format filter r.1 r.2
    o.code = 0 ∧ o.report = none := by
  intro r o
  have hplan : plan entry none [] setting files = _ := plan_of_template hroot hload
  have hchecked := exists_plan_iff_checked.mp ⟨_, hplan⟩
  have hresult : r.1 = .ok 0 := by
    rw [check_result, hchecked]
    rfl
  unfold o
  rw [hresult]
  exact ⟨rfl, rfl⟩

/--
If a settings file can be made in the root of a project, even through a link that leads to nothing
yet, then the project has the settings of its text, and no second file is made unless it is asked
for. Every entry with that root is then valid, and a run of it comes to its launch. As the root of an
entry is absolute, it does not matter where the entry is given.
-/
theorem made_settings_suffice {w : World} {force : Bool} {p : Path}
    (h : ((Settings.init root.path force).run setting w).1 = .ok p) :
    let left := ((Settings.init root.path force).run setting w).2.files
    p = root.settingsPath ∧
      (∀ later : Setting, Path.isAbsolute root.path = true ∨ later.cwd = setting.cwd →
        (Settings.load root).answer later left = .ok Settings.ofTemplate ∧
          ∀ events, (Settings.init root.path false).run later ⟨left, events⟩ =
            (.error (.settings (.alreadyExists p)), ⟨left, events⟩)) ∧
      ∀ (entry : Path) (later : Setting),
        (resolveRoot entry).answer later left = .ok root →
          (∀ (format : LogFormat) (filter : LogFilter),
            let r := (runCheck entry).run later ⟨left, []⟩
            let o := finished format filter r.1 r.2
            o.code = 0 ∧ o.report = none) ∧
          ∀ (sync : Option Bool) (forwarded : List String),
            let p := planOfTemplate root sync forwarded
            plan entry sync forwarded later left = .ok p ∧
              ((runLaunch entry sync forwarded).run later ⟨left, []⟩).2.started =
                p.children later left ∧
              p.children later left ≠ [] := by
  intro left
  obtain ⟨rfl, place, executable, hstatus⟩ := Settings.exists_status_of_init h
  refine ⟨rfl, fun later hlater => ⟨?loaded, fun events => ?refused⟩,
    fun entry later hroot => ?entered⟩
  case loaded => exact Settings.load_of_template (hstatus later hlater)
  case refused =>
    have hthere := isThere_iff.mpr ⟨_, hstatus later hlater⟩
    exact Settings.init_of_isThere (w := ⟨left, events⟩) hthere
  case entered =>
    have hload := Settings.load_of_template (hstatus later (.inl (isAbsolute_of_resolveRoot hroot)))
    refine ⟨check_of_template hroot hload, fun sync forwarded => ?_⟩
    have hplan : plan entry sync forwarded later left = _ := plan_of_template hroot hload
    exact ⟨hplan, (run_of_plan hplan).2, Plan.children_ne_nil⟩

theorem made_settings_suffice_through_link :
    let left := ((Settings.init "/repo" false).run Setting.barren
      ⟨Settings.linkedProject, []⟩).2.files
    left.node? ["docmake.toml", "repo"] = some (.link "settings.toml") ∧
      left.node? ["settings.toml", "repo"] = some (.file Settings.template.toUTF8 false) ∧
      (Settings.load ⟨"/repo"⟩).answer Setting.barren left = .ok Settings.ofTemplate ∧
      plan "../make" none [] { Setting.barren with cwd := ["docs", "repo"] } left =
        .ok (planOfTemplate ⟨"/repo"⟩ none []) := by
  have hmade : ((Settings.init "/repo" false).run Setting.barren
      ⟨Settings.linkedProject, []⟩).1 = .ok "/repo/docmake.toml" := by
    rfl
  obtain ⟨-, hlater, hentered⟩ := @made_settings_suffice Setting.barren ⟨"/repo"⟩ _ _ _ hmade
  obtain ⟨-, hplanned⟩ :=
    hentered "../make" { Setting.barren with cwd := ["docs", "repo"] } (by rfl)
  exact ⟨by rfl, by rfl, (hlater _ (.inr rfl)).1, (hplanned none []).1⟩

end DocLaunch.Program
