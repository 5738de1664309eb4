import DocLaunch.CommandLine.Commands
import DocLaunch.Proofs.Launch.Plan
import DocLaunch.Proofs.Settings.File

namespace DocLaunch.Program

open Activity

/-- The plan of a run, or the fault of the first stage that fails. -/
def plan (entry : Path) (sync : Option Bool) (forwarded : List String) (setting : Setting)
    (files : FileSystem) : Except Fault Plan := do
  let root ← (resolveRoot entry).answer setting files
  let settings ← (Settings.load root).answer setting files
  (Settings.validate root settings.site).answer setting files
  let builder ← (Builder.ofSettings settings).mapError .settings
  return {
    root
    options := ⟨sync.getD settings.submodules.sync, forwarded⟩
    submodules := settings.submodules
    builder }

theorem resolveRoot_looks (entry : Path) : (resolveRoot entry).Looks :=
  looks_cwd.bind fun _ => looks_ofExcept _ _

theorem options_eq (settings : Settings) (sync : Option Bool) (forwarded : List String) :
    ((LaunchOptions.ofSettings settings).overrideSync sync).forward forwarded =
      ⟨sync.getD settings.submodules.sync, forwarded⟩ := by
  cases sync <;> rfl

theorem prepare_runs (entry : Path) (sync : Option Bool) (forwarded : List String)
    (setting : Setting) (files : FileSystem) :
    (prepare entry sync forwarded).Runs setting files
      ((fun p => (p.root, p.options, p.steps)) <$> plan entry sync forwarded setting files)
      files [] := by
  simp only [plan, map_bind, map_pure]
  refine (resolveRoot_looks entry).bind_runs fun root => ?_
  refine (Settings.load_looks root).bind_runs fun settings => ?_
  refine (Settings.validate_looks root settings.site).bind_runs fun _ => ?_
  rw [← answer_ofExcept, ← options_eq]
  exact (looks_ofExcept _ _).bind_runs fun _ => (looks_pure _).runs rfl

theorem exists_ok_of_bind {ε α β : Type} {x : Except ε α} {next : α → Except ε β} {b : β}
    (h : x >>= next = .ok b) : ∃ a, x = .ok a ∧ next a = .ok b := by
  cases x with
  | error e => cases h
  | ok a => exact ⟨a, rfl, h⟩

theorem ok_of_mapError {ε ε' α : Type} {x : Except ε α} {fault : ε → ε'} {a : α}
    (h : x.mapError fault = .ok a) : x = .ok a := by
  cases x with
  | error e => cases h
  | ok b => exact congrArg _ (Except.ok.inj h)

theorem plan_eq_ok {entry : Path} {sync : Option Bool} {forwarded : List String}
    {setting : Setting} {files : FileSystem} {p : Plan} :
    plan entry sync forwarded setting files = .ok p ↔
      ∃ (root : ProjectRoot) (settings : Settings) (builder : Builder),
        (resolveRoot entry).answer setting files = .ok root ∧
        (Settings.load root).answer setting files = .ok settings ∧
        (Settings.validate root settings.site).answer setting files = .ok () ∧
        Builder.ofSettings settings = .ok builder ∧
        p = ⟨root, ⟨sync.getD settings.submodules.sync, forwarded⟩, settings.submodules,
          builder⟩ := by
  constructor
  · intro h
    obtain ⟨root, hroot, h⟩ := exists_ok_of_bind h
    obtain ⟨settings, hload, h⟩ := exists_ok_of_bind h
    obtain ⟨⟨⟩, hvalid, h⟩ := exists_ok_of_bind h
    obtain ⟨builder, hbuilder, h⟩ := exists_ok_of_bind h
    cases h
    exact ⟨root, settings, builder, hroot, hload, hvalid, ok_of_mapError hbuilder, rfl⟩
  · rintro ⟨root, settings, builder, hroot, hload, hvalid, hbuilder, rfl⟩
    simp only [plan, hroot, hload, hvalid, hbuilder, bind, Except.bind]
    rfl

end DocLaunch.Program
