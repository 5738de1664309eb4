import DocLaunch.Launch.Basic

namespace DocLaunch

/-- What may be flags, up to the first double dash, and the operands behind it. -/
def splitAtDash : List String → List String × List String
  | [] => ([], [])
  | arg :: rest =>
    if arg = "--" then ([], rest)
    else (arg :: (splitAtDash rest).1, (splitAtDash rest).2)

theorem splitAtDash_append {flags : List String} (h : "--" ∉ flags) (operands : List String) :
    splitAtDash (flags ++ "--" :: operands) = (flags, operands) := by
  induction flags with
  | nil => exact if_pos rfl
  | cons flag flags ih =>
    have hne : flag ≠ "--" := fun he => h (he ▸ List.mem_cons_self)
    have hsplit := ih fun hmem => h (List.mem_cons_of_mem flag hmem)
    rw [List.cons_append, splitAtDash, if_neg hne, hsplit]

theorem splitAtDash_of_not_mem {args : List String} (h : "--" ∉ args) :
    splitAtDash args = (args, []) := by
  induction args with
  | nil => rfl
  | cons arg args ih =>
    have hne : arg ≠ "--" := fun he => h (he ▸ List.mem_cons_self)
    have hsplit := ih fun hmem => h (List.mem_cons_of_mem arg hmem)
    rw [splitAtDash, if_neg hne, hsplit]

namespace Submodules

/-- The arguments in front of the paths. -/
def flags (recursive : Bool) : List String :=
  ["submodule", "update", "--init"] ++ if recursive then ["--recursive"] else []

theorem dash_not_mem_flags (recursive : Bool) : "--" ∉ flags recursive := by
  cases recursive with
  | false => decide
  | true => decide

theorem flags_injective {recursive recursive' : Bool} (h : flags recursive = flags recursive') :
    recursive = recursive' := by
  have hlength := congrArg List.length h
  cases recursive with
  | false =>
    cases recursive' with
    | false => rfl
    | true => cases hlength
  | true =>
    cases recursive' with
    | false => cases hlength
    | true => rfl

theorem arguments_of_no_paths {s : Submodules} (h : s.paths = []) :
    s.arguments = flags s.recursive := by
  rw [arguments, h]
  exact List.append_nil _

theorem arguments_of_paths {s : Submodules} (h : s.paths ≠ []) :
    s.arguments = flags s.recursive ++ "--" :: s.paths := by
  rw [arguments, if_neg (mt List.isEmpty_iff.mp h)]
  rfl

theorem splitAtDash_arguments (s : Submodules) :
    splitAtDash s.arguments = (flags s.recursive, s.paths) := by
  have hflags := dash_not_mem_flags s.recursive
  by_cases h : s.paths = []
  · rw [arguments_of_no_paths h, splitAtDash_of_not_mem hflags, h]
  · rw [arguments_of_paths h, splitAtDash_append hflags]

theorem dash_not_mem_arguments (s : Submodules) : "--" ∉ s.arguments ↔ s.paths = [] := by
  constructor
  · intro hnone
    apply Classical.byContradiction
    intro h
    rw [arguments_of_paths h] at hnone
    exact hnone (List.mem_append_right _ List.mem_cons_self)
  · intro h
    rw [arguments_of_no_paths h]
    exact dash_not_mem_flags s.recursive

/--
Before the first double dash stand the fixed arguments and perhaps the flag for submodules inside
submodules, and behind it the paths, whatever they are. Without paths there is no double dash. So
the arguments are the same only where that flag and the paths are.
-/
theorem paths_are_operands (s : Submodules) :
    splitAtDash s.arguments =
        (["submodule", "update", "--init"] ++ (if s.recursive then ["--recursive"] else []),
          s.paths) ∧
      ("--" ∉ s.arguments ↔ s.paths = []) ∧
      ∀ s' : Submodules,
        s'.arguments = s.arguments ↔ s'.recursive = s.recursive ∧ s'.paths = s.paths := by
  have hsplit := s.splitAtDash_arguments
  refine ⟨hsplit, s.dash_not_mem_arguments, ?_⟩
  intro s'
  constructor
  · intro hsame
    have hsplit' := s'.splitAtDash_arguments
    rw [hsame, hsplit] at hsplit'
    obtain ⟨hflags, hpaths⟩ := Prod.mk.inj hsplit'
    exact ⟨(flags_injective hflags).symm, hpaths.symm⟩
  · intro hsame
    obtain ⟨hrecursive, hpaths⟩ := hsame
    rw [arguments, arguments, hrecursive, hpaths]

example : splitAtDash (arguments { paths := ["--force", "--", ""] }) =
    (["submodule", "update", "--init"], ["--force", "--", ""]) := by
  decide

end Submodules
end DocLaunch
