import DocLaunch.Proofs.FileSystem.Writing
import DocLaunch.Proofs.Settings.Reload

namespace DocLaunch

namespace Settings

open Activity FileSystem

/-- How making a settings file in a directory ends, and what files there are then. -/
inductive Creates (cwd : Place) (dir : Path) (force : Bool) (fs : FileSystem) :
    Except Fault Path → FileSystem → Prop where
  | noDirectory {fs₁ : FileSystem} {e : SystemFault}
    (hdir : fs.makeDirectories cwd dir = (fs₁, .error e)) :
    Creates cwd dir force fs (.error (.file dir e)) fs₁
  | refused {fs₁ : FileSystem} (hdir : fs.makeDirectories cwd dir = (fs₁, .ok ()))
    (hthere : fs₁.isThere cwd (Path.join dir ProjectRoot.settingsName) = true)
    (hforce : force = false) :
    Creates cwd dir force fs
      (.error (.settings (.alreadyExists (Path.join dir ProjectRoot.settingsName)))) fs₁
  | unwritten {fs₁ : FileSystem} {e : SystemFault}
    (hdir : fs.makeDirectories cwd dir = (fs₁, .ok ()))
    (hwrite : fs₁.writeText cwd (Path.join dir ProjectRoot.settingsName) template = .error e) :
    Creates cwd dir force fs (.error (.file (Path.join dir ProjectRoot.settingsName) e)) fs₁
  | written {fs₁ fs' : FileSystem} (hdir : fs.makeDirectories cwd dir = (fs₁, .ok ()))
    (hforce : fs₁.isThere cwd (Path.join dir ProjectRoot.settingsName) = true → force = true)
    (hwrite : fs₁.writeText cwd (Path.join dir ProjectRoot.settingsName) template = .ok fs') :
    Creates cwd dir force fs (.ok (Path.join dir ProjectRoot.settingsName)) fs'

variable {setting : Setting} {w : World} {dir : Path} {force : Bool}

theorem init_creates (setting : Setting) (w : World) (dir : Path) (force : Bool) :
    Creates setting.cwd dir force w.files ((init dir force).run setting w).1
      ((init dir force).run setting w).2.files := by
  have hfiles (w : World) : files.run setting w = (.ok w.files, w) := rfl
  have hcwd (w : World) : Activity.cwd.run setting w = (.ok setting.cwd, w) := rfl
  have hset (fs : FileSystem) (w : World) :
      (setFiles fs).run setting w = (.ok (), { w with files := fs }) := rfl
  simp only [init, run_bind, hfiles, hcwd]
  cases hdir : w.files.makeDirectories setting.cwd dir with
  | mk fs₁ made =>
  simp only [hset, run_ofExcept]
  cases made with
  | error e => exact .noDirectory hdir
  | ok =>
    simp only [Except.mapError, run_ask]
    split
    · next hrefused =>
      rw [Bool.and_eq_true, Bool.not_eq_true'] at hrefused
      exact .refused hdir hrefused.1 hrefused.2
    · next hfree =>
      simp only [run_bind, hfiles, hcwd, run_ofExcept]
      cases hwrite :
          fs₁.writeText setting.cwd (Path.join dir ProjectRoot.settingsName) template with
      | error e => exact .unwritten hdir hwrite
      | ok fs' =>
        refine .written hdir (fun hthere => ?_) hwrite
        rw [hthere, Bool.true_and, Bool.not_eq_true', Bool.not_eq_false] at hfree
        exact hfree

namespace Creates

variable {cwd : Place} {fs left : FileSystem} {f : Fault} {p : Path}

theorem grows_of_error (h : Creates cwd dir force fs (.error f) left) : fs.Grows left := by
  have hgrows := makeChain_grows cwd fs (Path.ancestors dir)
  cases h with
  | noDirectory hdir | refused hdir | unwritten hdir =>
    rw [makeDirectories] at hdir
    rwa [hdir] at hgrows

theorem exists_written (h : Creates cwd dir force fs (.ok p) left) :
    p = Path.join dir ProjectRoot.settingsName ∧ ∃ fs₁ place executable, fs.Grows fs₁ ∧
      (fs₁.isThere cwd p = true → force = true) ∧
      Written cwd p template.toUTF8 fs₁ place executable left := by
  have hgrows := makeChain_grows cwd fs (Path.ancestors dir)
  cases h with
  | @written fs₁ _ hdir hforce hwrite =>
    rw [makeDirectories] at hdir
    rw [hdir] at hgrows
    obtain ⟨place, executable, hwritten⟩ := FileSystem.exists_written hwrite
    exact ⟨rfl, fs₁, place, executable, hgrows, hforce, hwritten⟩

end Creates

/--
Everything that stood stands unchanged, but for the file that the path of the settings leads to, if
it is to be replaced; and every path leads where it led. After a failure directories are all that
is new, and after a success directories and the template at that one place.
-/
theorem init_damages_no_file (setting : Setting) (w : World) (dir : Path) (force : Bool) :
    let path := Path.join dir ProjectRoot.settingsName
    let answer := ((init dir force).run setting w).1
    let left := ((init dir force).run setting w).2.files
    (∀ place node, w.files.node? place = some node → left.node? place = some node ∨
      force = true ∧ (∃ old executable, node = .file old executable) ∧
        ∃ new, left.status setting.cwd path = .ok (place, new)) ∧
    (∀ q place node, w.files.status setting.cwd q = .ok (place, node) →
      ∃ new, left.status setting.cwd q = .ok (place, new)) ∧
    (∀ f, answer = .error f → w.files.Grows left) ∧
    ∀ p, answer = .ok p → p = path ∧ left.readText setting.cwd p = .ok template ∧
      ∃ written executable,
        left.status setting.cwd p = .ok (written, .file template.toUTF8 executable) ∧
        ∀ here, here ≠ written → left.node? here = w.files.node? here ∨
          w.files.node? here = none ∧ left.node? here = some .directory := by
  intro path answer left
  have hcreates : Creates setting.cwd dir force w.files answer left := init_creates ..
  clear_value answer left
  cases answer with
  | error f =>
    have hgrows := hcreates.grows_of_error
    refine ⟨fun place node hnode => .inl (hgrows.kept place node hnode),
      fun q place node hstatus => ⟨node, hgrows.status hstatus⟩, fun _ _ => hgrows, nofun⟩
  | ok p =>
    obtain ⟨rfl, fs₁, written, executable, hgrows, hforce, hwritten⟩ := hcreates.exists_written
    refine ⟨fun place node hnode => ?_, fun q place node hstatus => ?_, nofun, ?_⟩
    · have hnode₁ := hgrows.kept place node hnode
      by_cases hplace : place = written
      · right
        subst hplace
        obtain ⟨old, hold⟩ := hwritten.eq_file hnode₁
        refine ⟨?_, ⟨old, executable, hold⟩, _, hwritten.status⟩
        cases hthere : fs₁.isThere setting.cwd (Path.join dir ProjectRoot.settingsName) with
        | true => exact hforce hthere
        | false =>
          rw [hwritten.node?_of_not_isThere hthere] at hnode₁
          cases hnode₁
      · left
        rwa [hwritten.node?_of_ne hplace]
    · exact hwritten.exists_status (hgrows.status hstatus)
    · rintro _ ⟨⟩
      refine ⟨rfl, readText_of_readBytes (readBytes_of_status hwritten.status), written, executable,
        hwritten.status, fun here hhere => ?_⟩
      rw [hwritten.node?_of_ne hhere]
      cases hnode : w.files.node? here with
      | some node => exact .inl (hgrows.kept here node hnode)
      | none =>
        cases hnode₁ : fs₁.node? here with
        | none => exact .inl rfl
        | some node => exact .inr ⟨rfl, congrArg some (hgrows.new here node hnode hnode₁)⟩

def linkedProject : FileSystem :=
  ⟨[(["repo"], .directory), (["docmake.toml", "repo"], .link "settings.toml"),
    (["notes", "repo"], .file "open questions".toUTF8 false)]⟩

theorem init_damages_no_file_through_link :
    let left := ((init "repo" false).run Setting.barren ⟨linkedProject, []⟩).2.files
    left.readText [] "repo/docmake.toml" = .ok template ∧
      left.node? ["settings.toml", "repo"] = some (.file template.toUTF8 false) ∧
      left.node? ["notes", "repo"] = some (.file "open questions".toUTF8 false) := by
  obtain ⟨hkept, -, -, hdone⟩ :=
    init_damages_no_file Setting.barren ⟨linkedProject, []⟩ "repo" false
  refine ⟨(hdone "repo/docmake.toml" rfl).2.1, rfl, ?_⟩
  exact (hkept ["notes", "repo"] _ rfl).resolve_right fun h => nomatch h.1

/--
What a refusal leaves behind. The files are as they were just if the directory was there already,
or none was named. In a tree where everything stands in a directory that is so for every path that
does not go up.
-/
theorem init_refusal_adds_directories_at_most {setting : Setting} {w : World} {dir p : Path}
    {force : Bool}
    (h : ((init dir force).run setting w).1 = .error (.settings (.alreadyExists p))) :
    let left := ((init dir force).run setting w).2.files
    p = Path.join dir ProjectRoot.settingsName ∧ force = false ∧
      left.isThere setting.cwd p = true ∧ w.files.Grows left ∧
      (left = w.files ↔ dir = "" ∨ w.files.isDirectory setting.cwd dir = true) ∧
      (w.files.Closed → ".." ∉ Path.pieces dir → left = w.files) := by
  intro left
  have hcreates : Creates setting.cwd dir force w.files _ left := init_creates ..
  rw [h] at hcreates
  clear_value left
  have hgrows := hcreates.grows_of_error
  cases hcreates with
  | refused hdir hthere hforce =>
    have hmade := made_of_makeChain hdir
    refine ⟨rfl, hforce, hthere, hgrows, hmade.eq_iff_of_ancestors, fun hfs hup => ?_⟩
    rcases hmade.eq_or_leadsToEmpty hfs (mt Path.parent_mem_segments_iff.mp hup) with hsame | hempty
    · exact hsame
    · -- In a directory that was made there is no settings file yet.
      have hname : Path.isAbsolute ProjectRoot.settingsName = false := by decide
      have hsegs := Path.segments_join (p := dir) hname
      rw [← List.append_nil (Path.segments dir)] at hsegs
      have hnone := hempty.isThere_eq_false (Path.isAbsolute_join hname).symm
        (List.forall_mem_nil _) hsegs
      rw [hnone] at hthere
      cases hthere

def settingsAtTop : FileSystem :=
  ⟨[(["docmake.toml"], .file template.toUTF8 false)]⟩

/-- Into a missing directory and up again: the directory is there after the refusal. -/
theorem init_refusal_may_leave_directory :
    let out := (init "new/.." false).run Setting.barren ⟨settingsAtTop, []⟩
    out.1 = .error (.settings (.alreadyExists "new/../docmake.toml")) ∧
      settingsAtTop.node? ["new"] = none ∧ out.2.files.node? ["new"] = some .directory ∧
      out.2.files ≠ settingsAtTop := by
  have hnew : ((init "new/.." false).run Setting.barren ⟨settingsAtTop, []⟩).2.files.node? ["new"] =
      some .directory := by rfl
  refine ⟨rfl, rfl, hnew, fun hsame => ?_⟩
  rw [hsame] at hnew
  cases hnew

theorem settingsAtTop_closed : settingsAtTop.Closed := by
  intro n here node h
  rw [settingsAtTop, node?, List.lookup_cons] at h
  · split at h
    · next hplace =>
      cases eq_of_beq hplace
      rfl
    · cases h
  · exact List.cons_ne_nil n here

theorem init_refusal_at_top_and_by_detour :
    let top := (init "/" false).run Setting.barren ⟨settingsAtTop, []⟩
    let detour := (init "new/.." false).run Setting.barren ⟨settingsAtTop, []⟩
    (top.1 = .error (.settings (.alreadyExists "/docmake.toml")) ∧ top.2.files = settingsAtTop) ∧
      detour.1 = .error (.settings (.alreadyExists "new/../docmake.toml")) ∧
      settingsAtTop.Grows detour.2.files ∧ detour.2.files ≠ settingsAtTop := by
  intro top detour
  have htop : top.1 = .error (.settings (.alreadyExists "/docmake.toml")) := by rfl
  have hdetour : detour.1 = .error (.settings (.alreadyExists "new/../docmake.toml")) := by rfl
  obtain ⟨-, -, -, -, -, hsame⟩ := init_refusal_adds_directories_at_most htop
  obtain ⟨-, -, -, hgrows, hiff, -⟩ := init_refusal_adds_directories_at_most hdetour
  have hmissing : ¬("new/.." = "" ∨ settingsAtTop.isDirectory [] "new/.." = true) := by
    decide
  exact ⟨⟨htop, hsame settingsAtTop_closed (by decide)⟩, hdetour, hgrows, hiff.not.mpr hmissing⟩

end Settings
end DocLaunch
