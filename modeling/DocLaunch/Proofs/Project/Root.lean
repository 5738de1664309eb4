import DocLaunch.Project.Root
import DocLaunch.Proofs.Path.Joining

namespace DocLaunch.ProjectRoot

open DocLaunch.Path

variable {entry cwd : Path}

def above (place : Path) : Except RootFault ProjectRoot :=
  match parent? place with
  | none => .error (.noContainer place)
  | some container => .ok ⟨container⟩

theorem ofEntry_empty : ofEntry "" cwd = .error .emptyEntry :=
  rfl

theorem ofEntry_of_relative (hentry : entry ≠ "") (hrel : isAbsolute entry = false)
    (hcwd : isAbsolute cwd = false) : ofEntry entry cwd = .error (.relativeDirectory cwd) := by
  have hempty : entry.isEmpty = false := by simpa [Bool.eq_false_iff, String.isEmpty_iff]
  simp [ofEntry, hempty, hrel, hcwd]

/-- Of an entry that leads to an absolute place, the root depends on the place alone. -/
theorem ofEntry_of_absolute (hentry : entry ≠ "")
    (habs : isAbsolute (Path.join cwd entry) = true) :
    ofEntry entry cwd = above (normalize (Path.join cwd entry)) := by
  have hempty : entry.isEmpty = false := by simpa [Bool.eq_false_iff, String.isEmpty_iff]
  have hplace : (!isAbsolute entry && !isAbsolute cwd) = false := by
    rcases isAbsolute_join_iff.mp habs with h | h <;> simp [h]
  simp only [ofEntry, hempty, hplace, Bool.false_eq_true, if_false]
  generalize normalize (Path.join cwd entry) = place
  rfl

theorem above_top : above "/" = .error (.noContainer "/") :=
  rfl

theorem above_toPath {f : NormalForm} {n : String} (hf : f.Sound) (hn : IsName n) :
    above (NormalForm.toPath { f with names := n :: f.names }) = .ok ⟨f.toPath⟩ := by
  rw [above, hf.parent?_toPath hn]

theorem ofEntry_of_name {f : NormalForm} {n : String} (hentry : entry ≠ "") (hf : f.Sound)
    (habs : f.absolute = true) (hn : IsName n)
    (hplace : NormalForm.ofPath (Path.join cwd entry) = { f with names := n :: f.names }) :
    ofEntry entry cwd = .ok ⟨f.toPath⟩ := by
  have hjoin : isAbsolute (Path.join cwd entry) = true := by
    rw [← NormalForm.absolute_ofPath, hplace]
    exact habs
  rw [ofEntry_of_absolute hentry hjoin, normalize_eq_toPath, hplace, above_toPath hf hn]

theorem ofEntry_eq_ok {root : ProjectRoot} (h : ofEntry entry cwd = .ok root) :
    ∃ (f : NormalForm) (n : String), f.Sound ∧ f.absolute = true ∧ IsName n ∧
      NormalForm.ofPath (Path.join cwd entry) = { f with names := n :: f.names } ∧
      root.path = f.toPath := by
  have hentry : entry ≠ "" := by
    rintro rfl
    cases h
  have habs : isAbsolute (Path.join cwd entry) = true := by
    rw [isAbsolute_join_iff]
    by_contra hrel
    obtain ⟨hrel, hcwd⟩ := not_or.mp hrel
    rw [ofEntry_of_relative hentry (Bool.eq_false_iff.mpr hrel) (Bool.eq_false_iff.mpr hcwd)] at h
    cases h
  rcases NormalForm.ofPath_of_absolute habs with htop | ⟨f, n, hf, hform, hn, hplace⟩
  · rw [ofEntry_of_absolute hentry habs, normalize_eq_toPath, htop] at h
    cases above_top.symm.trans h
  · rw [ofEntry_of_name hentry hf hform hn hplace] at h
    cases h
    exact ⟨f, n, hf, hform, hn, hplace, rfl⟩

theorem normalize_path {root : ProjectRoot} (h : ofEntry entry cwd = .ok root) :
    normalize root.path = root.path := by
  obtain ⟨f, n, hf, -, -, -, hpath⟩ := ofEntry_eq_ok h
  rw [hpath, normalize_eq_toPath, hf.ofPath_toPath]

end DocLaunch.ProjectRoot
