import DocLaunch.Proofs.Settings.Creation

namespace DocLaunch

namespace Settings

open Activity FileSystem

def ofTemplate : Settings where
  launcher := { builder := ["uv", "run", "docs-make"] }
  submodules := { sync := false }
  site := { project := some "Documentation", sourceDir := "src", extensions := [] }

theorem toOption_ofText (cs : List Char) :
    (ofText (String.ofList cs)).toOption =
      (Toml.Value.ofText? cs).bind fun document => (Settings.decode document).toOption := by
  rw [ofText, String.toList_ofList]
  cases Toml.Value.ofText? cs with
  | none => rfl
  | some document =>
    simp only [Option.bind_some]
    cases Settings.decode document <;> rfl

set_option maxRecDepth 2000 in
/-- The reader runs on the characters of the text, so it is taken as their list first. -/
theorem ofText_template : ofText template = .ok ofTemplate := by
  obtain ⟨cs, htext, hread⟩ : ∃ cs, template = String.ofList cs ∧
      ((Toml.Value.ofText? cs).bind fun document => (Settings.decode document).toOption) =
        some ofTemplate :=
    ⟨_, rfl, by decide +kernel⟩
  rw [← toOption_ofText, ← htext] at hread
  exact toOption_eq_some_iff.mp hread

theorem check_ofTemplate : ofTemplate.site.check = .ok () := by
  rfl

variable {setting later : Setting} {w : World} {files : FileSystem} {root : ProjectRoot}
  {force : Bool} {p : Path}

theorem load_of_template {place : Place} {executable : Bool}
    (h : files.status setting.cwd root.settingsPath =
      .ok (place, .file template.toUTF8 executable)) :
    (load root).answer setting files = .ok ofTemplate := by
  have hthere : files.isThere setting.cwd root.settingsPath = true := isThere_iff.mpr ⟨_, h⟩
  have htext := readText_of_readBytes (readBytes_of_status h)
  rw [load_answer_of_isThere hthere, loadFrom_answer htext, ofText_template]
  rfl

theorem exists_status_of_init (h : ((init root.path force).run setting w).1 = .ok p) :
    p = root.settingsPath ∧ ∃ place executable, ∀ later : Setting,
      Path.isAbsolute root.path = true ∨ later.cwd = setting.cwd →
        ((init root.path force).run setting w).2.files.status later.cwd root.settingsPath =
          .ok (place, .file template.toUTF8 executable) := by
  have hcreates := init_creates setting w root.path force
  rw [h] at hcreates
  obtain ⟨rfl, fs₁, place, executable, -, -, hwritten⟩ := hcreates.exists_written
  refine ⟨rfl, place, executable, fun later hlater => ?_⟩
  rcases hlater with habs | hcwd
  · have hname : Path.isAbsolute ProjectRoot.settingsName = false := by decide
    rw [← Path.isAbsolute_join hname] at habs
    exact (status_of_absolute habs setting.cwd).trans hwritten.status
  · rw [hcwd]
    exact hwritten.status

theorem init_of_isThere {dir : Path}
    (h : w.files.isThere setting.cwd (Path.join dir ProjectRoot.settingsName) = true) :
    (init dir false).run setting w =
      (.error (.settings (.alreadyExists (Path.join dir ProjectRoot.settingsName))), w) := by
  have hname : Path.isAbsolute ProjectRoot.settingsName = false := by decide
  have hsegs : Path.segments ProjectRoot.settingsName ≠ [] := by decide
  have hdir : dir = "" ∨ w.files.isDirectory setting.cwd dir = true := by
    by_cases hempty : dir = ""
    · exact .inl hempty
    · exact .inr (isDirectory_of_isThere_join hempty hname hsegs h)
  have hmade := makeDirectories_of_isDirectory hdir
  have hfiles (w : World) : Activity.files.run setting w = (.ok w.files, w) := rfl
  have hcwd (w : World) : Activity.cwd.run setting w = (.ok setting.cwd, w) := rfl
  have hset (fs : FileSystem) (w : World) :
      (setFiles fs).run setting w = (.ok (), { w with files := fs }) := rfl
  simp only [init, run_bind, hfiles, hcwd, hmade, hset, run_ofExcept, Except.mapError, run_ask, h]
  rfl

end Settings
end DocLaunch
