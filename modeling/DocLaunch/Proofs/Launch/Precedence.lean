import DocLaunch.Launch.Basic
import Mathlib.Data.List.ReduceOption

namespace DocLaunch.LaunchOptions

/-- A step that changes the options of a launch after they were taken from the settings. -/
inductive Step where
  | overrideSync (sync : Option Bool)
  | forward (args : List String)

/-- The override in a step, given or not. -/
def Step.override? : Step → Option (Option Bool)
  | .overrideSync sync => some sync
  | .forward _ => none

def Step.forwarded? : Step → Option (List String)
  | .overrideSync _ => none
  | .forward args => some args

def overrides (steps : List Step) : List (Option Bool) :=
  steps.filterMap Step.override?

/-- The arguments to forward, as the steps name them one after another. -/
def forwards (steps : List Step) : List (List String) :=
  steps.filterMap Step.forwarded?

def apply (o : LaunchOptions) : Step → LaunchOptions
  | .overrideSync sync => o.overrideSync sync
  | .forward args => o.forward args

def applyAll (o : LaunchOptions) (steps : List Step) : LaunchOptions :=
  steps.foldl apply o

theorem applyAll_cons (o : LaunchOptions) (step : Step) (steps : List Step) :
    o.applyAll (step :: steps) = (o.apply step).applyAll steps :=
  rfl

theorem applyAll_append (o : LaunchOptions) (steps steps' : List Step) :
    o.applyAll (steps ++ steps') = (o.applyAll steps).applyAll steps' :=
  List.foldl_append

/-- An option that each step sets or leaves alone is as the last step that sets it says. -/
theorem applyAll_last {α : Type} {option : LaunchOptions → α} {sets : Step → Option α}
    (hstep : ∀ o step, option (o.apply step) = (sets step).getD (option o))
    (o : LaunchOptions) (steps : List Step) :
    option (o.applyAll steps) = (steps.filterMap sets).getLastD (option o) := by
  induction steps generalizing o with
  | nil => rfl
  | cons step steps ih =>
    rw [applyAll_cons, ih, hstep]
    cases hsets : sets step with
    | none =>
      rw [List.filterMap_cons_none hsets]
      rfl
    | some a =>
      rw [List.filterMap_cons_some hsets, List.getLastD_cons]
      rfl

theorem sync_apply (o : LaunchOptions) (step : Step) :
    (o.apply step).sync = step.override?.join.getD o.sync := by
  cases step with
  | overrideSync sync =>
    cases sync with
    | none => rfl
    | some sync => rfl
  | forward args => rfl

theorem forwarded_apply (o : LaunchOptions) (step : Step) :
    (o.apply step).forwarded = step.forwarded?.getD o.forwarded := by
  cases step with
  | overrideSync sync =>
    cases sync with
    | none => rfl
    | some sync => rfl
  | forward args => rfl

theorem reduceOption_overrides (steps : List Step) :
    (overrides steps).reduceOption = steps.filterMap fun step => step.override?.join := by
  rw [overrides, List.reduceOption, List.filterMap_filterMap]
  rfl

theorem applyAll_eq (o : LaunchOptions) (steps : List Step) :
    o.applyAll steps =
      { sync := (overrides steps).reduceOption.getLastD o.sync
        forwarded := (forwards steps).getLastD o.forwarded } := by
  have hsync := applyAll_last sync_apply o steps
  have hforwarded := applyAll_last forwarded_apply o steps
  rw [← reduceOption_overrides] at hsync
  exact congrArg₂ LaunchOptions.mk hsync hforwarded

theorem applyAll_not_given (o : LaunchOptions) (before after : List Step) :
    o.applyAll (before ++ .overrideSync none :: after) = o.applyAll (before ++ after) := by
  rw [applyAll_append, applyAll_append, applyAll_cons]
  rfl

/--
After any steps submodules are synchronized as the last override says that was given, or as the
settings say without one, and what was named last is forwarded, or nothing. An override that is not
given can be left out wherever it stands. Steps that give the same overrides and the same arguments,
each in the same order, come to the same however the two kinds are mixed.
-/
theorem last_step_decides (s : Settings) (steps : List Step) :
    (ofSettings s).applyAll steps =
        { sync := (overrides steps).reduceOption.getLastD s.submodules.sync
          forwarded := (forwards steps).getLastD [] } ∧
      (∀ before after : List Step,
        (ofSettings s).applyAll (before ++ .overrideSync none :: after) =
          (ofSettings s).applyAll (before ++ after)) ∧
      ∀ steps' : List Step,
        overrides steps' = overrides steps → forwards steps' = forwards steps →
          (ofSettings s).applyAll steps' = (ofSettings s).applyAll steps := by
  refine ⟨applyAll_eq (ofSettings s) steps, applyAll_not_given (ofSettings s), ?_⟩
  intro steps' hoverrides hforwards
  rw [applyAll_eq, applyAll_eq, hoverrides, hforwards]

theorem last_step_decides_of_mixed_steps :
    let s : Settings := { submodules := { sync := true } }
    let steps : List Step :=
      [.forward ["-a"], .overrideSync (some false), .forward ["--serve"], .overrideSync none]
    let steps' : List Step :=
      [.overrideSync (some false), .overrideSync none, .forward ["-a"], .forward ["--serve"]]
    overrides steps' = overrides steps ∧ forwards steps' = forwards steps ∧
      (ofSettings s).applyAll steps = ⟨false, ["--serve"]⟩ ∧
      (ofSettings s).applyAll steps' = ⟨false, ["--serve"]⟩ := by
  intro s steps steps'
  have hoverrides : overrides steps' = overrides steps := by rfl
  have hforwards : forwards steps' = forwards steps := by rfl
  obtain ⟨hlast, -, hmixed⟩ := last_step_decides s steps
  have hsame := hmixed steps' hoverrides hforwards
  exact ⟨hoverrides, hforwards, hlast, hsame.trans hlast⟩

end DocLaunch.LaunchOptions
