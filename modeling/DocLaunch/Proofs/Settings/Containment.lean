import DocLaunch.Proofs.Path.Below
import DocLaunch.Proofs.Project.Root
import DocLaunch.Proofs.Settings.File
import DocLaunch.Proofs.Settings.Rules

namespace DocLaunch.Settings

open DocLaunch.Path

theorem within_of_checkBelow {field value : String} (base : Path)
    (h : Site.checkBelow field value = .ok ()) :
    Within (normalize (Path.join base value)) (normalize base) := by
  obtain ⟨-, hrel, hup⟩ := Site.checkBelow_eq_ok.mp h
  exact normalize_join_within hrel hup

theorem check_of_validate {root : ProjectRoot} {s : Site} {setting : Setting} {w : World}
    (h : ((validate root s).run setting w).1 = .ok ()) : s.check = .ok () := by
  rw [(validate_looks root s).run_fst, validate_answer] at h
  cases hs : s.check with
  | error f =>
    rw [hs] at h
    cases h
  | ok => rfl

/--
In an accepted declaration the directory of the documents lies within the root, and the data files
lie within that directory and so within the root.
-/
theorem accepted_paths_contained {entry cwd : Path} {root : ProjectRoot} {s : Site}
    {setting : Setting} {w : World} (hroot : ProjectRoot.ofEntry entry cwd = .ok root)
    (hvalid : ((validate root s).run setting w).1 = .ok ()) :
    Within (normalize (root.join s.sourceDir)) root.path ∧
      ∀ v, s.substitutionsPath = some v ∨ s.targetNamesPath = some v →
        Within (normalize (Path.join (root.join s.sourceDir) v))
            (normalize (root.join s.sourceDir)) ∧
          Within (normalize (Path.join (root.join s.sourceDir) v)) root.path := by
  obtain ⟨-, -, -, hsource, hdata⟩ := Site.check_eq_ok.mp (check_of_validate hvalid)
  have hbelow : Within (normalize (root.join s.sourceDir)) root.path := by
    have h := within_of_checkBelow root.path hsource
    rwa [ProjectRoot.normalize_path hroot] at h
  refine ⟨hbelow, fun v hv => ?_⟩
  obtain ⟨field, hmem⟩ := Site.mem_dataPaths hv
  have h := within_of_checkBelow (root.join s.sourceDir) (hdata _ hmem)
  exact ⟨h, h.trans hbelow⟩

/-- A declaration with repeated slashes, dots, and names that look like ways up. -/
def oddlySpelled : Site :=
  { sourceDir := "..a//./src/", substitutionsPath := some "./.../x//y" }

theorem accepted_paths_contained_of_odd_spelling :
    ProjectRoot.ofEntry "/repo/./docs//make" "/tmp" = .ok ⟨"/repo/docs"⟩ ∧
      oddlySpelled.check = .ok () ∧ Within "/repo/docs/..a/src/.../x/y" "/repo/docs" := by
  have hroot : ProjectRoot.ofEntry "/repo/./docs//make" "/tmp" = .ok ⟨"/repo/docs"⟩ := by rfl
  have hcheck : oddlySpelled.check = .ok () := by rfl
  have hvalid : ((validate ⟨"/repo/docs"⟩ oddlySpelled).run
      ⟨[], .empty, fun _ files => ⟨.error .notFound, files, "", false⟩, []⟩ ⟨.empty, []⟩).1 =
        .ok () := by
    rw [(validate_looks _ _).run_fst, validate_answer, hcheck]
    rfl
  have hplace : normalize (Path.join (ProjectRoot.join ⟨"/repo/docs"⟩ oddlySpelled.sourceDir)
      "./.../x//y") = "/repo/docs/..a/src/.../x/y" := by
    decide
  obtain ⟨-, hdata⟩ := accepted_paths_contained hroot hvalid
  obtain ⟨-, hbelow⟩ := hdata "./.../x//y" (.inl rfl)
  rw [hplace] at hbelow
  exact ⟨hroot, hcheck, hbelow⟩

end DocLaunch.Settings
