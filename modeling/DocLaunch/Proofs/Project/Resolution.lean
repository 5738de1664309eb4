import DocLaunch.Proofs.Path.Normalization
import DocLaunch.Proofs.Project.Root

namespace DocLaunch

namespace Path

theorem IsNormal.no_parent {p : Path} (hp : IsNormal p) (habs : isAbsolute p = true) :
    ".." ∉ pieces p := by
  obtain ⟨k, names, hpieces, hnames, hups⟩ := hp.ups_first
  obtain rfl : k = 0 := hups habs
  intro hmem
  have hfiltered : ".." ∈ (pieces p).filter (· ≠ "") := List.mem_filter.mpr ⟨hmem, by decide⟩
  rw [hpieces] at hfiltered
  exact hnames hfiltered

theorem normalize_eq_top_iff {p : Path} :
    normalize p = "/" ↔ NormalForm.ofPath p = NormalForm.start true := by
  constructor
  · intro htop
    rw [← NormalForm.ofPath_normalize, htop]
    decide
  · intro hform
    rw [normalize_eq_toPath, hform]
    decide

end Path

namespace ProjectRoot

open DocLaunch.Path

/-- Why an entry has no root; each cause presupposes that those before it do not apply. -/
inductive Refuses (entry cwd : Path) : RootFault → Prop where
  | empty (hentry : entry = "") : Refuses entry cwd .emptyEntry
  | relative (hentry : entry ≠ "") (hrel : isAbsolute entry = false)
    (hcwd : isAbsolute cwd = false) : Refuses entry cwd (.relativeDirectory cwd)
  | top (hentry : entry ≠ "") (habs : isAbsolute entry = true ∨ isAbsolute cwd = true)
    (htop : normalize (Path.join cwd entry) = "/") : Refuses entry cwd (.noContainer "/")

/-- The path of a root: it starts at the top and has no detours. -/
structure WellFormed (root : ProjectRoot) : Prop where
  absolute : isAbsolute root.path = true
  no_stay : "." ∉ pieces root.path
  no_parent : ".." ∉ pieces root.path
  no_double_slash : ¬ ['/', '/'] <:+: root.path.toList
  no_final_slash : endsInSlash root.path = true → root.path = "/"

variable {entry cwd : Path} {root : ProjectRoot}

theorem Refuses.ofEntry_eq {f : RootFault} (h : Refuses entry cwd f) :
    ofEntry entry cwd = .error f := by
  cases h with
  | empty hentry => rw [hentry, ofEntry_empty]
  | relative hentry hrel hcwd => exact ofEntry_of_relative hentry hrel hcwd
  | top hentry habs htop =>
    rw [ofEntry_of_absolute hentry (isAbsolute_join_iff.mpr habs), htop, above_top]

/-- An entry either has no root for one of the three causes, or is named in a directory. -/
theorem refuses_or_named (entry cwd : Path) :
    (∃ f, Refuses entry cwd f) ∨
      ∃ (f : NormalForm) (n : String), entry ≠ "" ∧ f.Sound ∧ f.absolute = true ∧ IsName n ∧
        NormalForm.ofPath (Path.join cwd entry) = { f with names := n :: f.names } := by
  by_cases hentry : entry = ""
  · exact .inl ⟨_, .empty hentry⟩
  by_cases habs : isAbsolute entry = true ∨ isAbsolute cwd = true
  · rcases NormalForm.ofPath_of_absolute (isAbsolute_join_iff.mpr habs) with htop | ⟨f, n, hf⟩
    · exact .inl ⟨_, .top hentry habs (normalize_eq_top_iff.mpr htop)⟩
    · exact .inr ⟨f, n, hentry, hf⟩
  · obtain ⟨hrel, hcwd⟩ := not_or.mp habs
    rw [Bool.not_eq_true] at hrel hcwd
    exact .inl ⟨_, .relative hentry hrel hcwd⟩

theorem ofEntry_eq_error_iff {f : RootFault} :
    ofEntry entry cwd = .error f ↔ Refuses entry cwd f := by
  refine ⟨fun h => ?_, Refuses.ofEntry_eq⟩
  rcases refuses_or_named entry cwd with ⟨f', hf'⟩ | ⟨form, n, hentry, hform, habs, hn, hplace⟩
  · have hsame : f' = f := Except.error.inj (hf'.ofEntry_eq.symm.trans h)
    rwa [← hsame]
  · rw [ofEntry_of_name hentry hform habs hn hplace] at h
    cases h

theorem exists_refuses_iff :
    (∃ f, Refuses entry cwd f) ↔
      entry = "" ∨ (isAbsolute entry = false ∧ isAbsolute cwd = false) ∨
        normalize (Path.join cwd entry) = "/" := by
  constructor
  · rintro ⟨_, hentry | ⟨-, hrel, hcwd⟩ | ⟨-, -, htop⟩⟩
    · exact .inl hentry
    · exact .inr (.inl ⟨hrel, hcwd⟩)
    · exact .inr (.inr htop)
  · intro h
    by_cases hentry : entry = ""
    · exact ⟨_, .empty hentry⟩
    rcases h with h | ⟨hrel, hcwd⟩ | htop
    · exact absurd h hentry
    · exact ⟨_, .relative hentry hrel hcwd⟩
    · have habs : isAbsolute (Path.join cwd entry) = true := by
        rw [← isAbsolute_normalize, htop]
        decide
      exact ⟨_, .top hentry (isAbsolute_join_iff.mp habs) htop⟩

theorem wellFormed_toPath {f : NormalForm} (hf : f.Sound) (habs : f.absolute = true) :
    WellFormed ⟨f.toPath⟩ := by
  have hnormal := hf.isNormal_toPath
  have hpath : isAbsolute f.toPath = true := hf.isAbsolute_toPath.trans habs
  exact ⟨hpath, hnormal.no_stay, hnormal.no_parent hpath, hnormal.no_double_slash,
    hnormal.no_final_slash⟩

theorem isAbsolute_of_ofEntry (h : ofEntry entry cwd = .ok root) :
    isAbsolute root.path = true := by
  obtain ⟨f, n, hf, habs, -, -, hpath⟩ := ofEntry_eq_ok h
  rw [hpath, hf.isAbsolute_toPath, habs]

/-- Whatever is named in a root has that root, wherever it is given from. -/
theorem ofEntry_join {n : String} (h : ofEntry entry cwd = .ok root) (hn : IsName n)
    (cwd' : Path) : ofEntry (root.join n) cwd' = .ok root := by
  obtain ⟨f, -, hf, habs, -, -, hpath⟩ := ofEntry_eq_ok h
  obtain ⟨path⟩ := root
  obtain rfl : path = f.toPath := hpath
  have hjoin : join ⟨f.toPath⟩ n = NormalForm.toPath { f with names := n :: f.names } :=
    hf.join_toPath hn
  have hdown := hf.down hn
  have hentry : join ⟨f.toPath⟩ n ≠ "" := join_ne_empty hn.ne_empty
  rw [hjoin] at hentry ⊢
  have habsolute : isAbsolute (NormalForm.toPath { f with names := n :: f.names }) = true :=
    hdown.isAbsolute_toPath.trans habs
  apply ofEntry_of_name hentry hf habs hn
  rw [join_of_absolute cwd' habsolute, hdown.ofPath_toPath]

theorem isName_settingsName : IsName settingsName :=
  ⟨by decide, by decide, by decide, by decide⟩

/--
Exactly these entries have no root: the empty one, a relative one that is given from a directory
that is not absolute, and one that leads to the top; the first cause that applies is reported. Any
other root is the directory in which the entry is named, and so it is that of all that is named in
it, such as its settings file.
-/
theorem resolution_exact (entry cwd : Path) :
    ((∃ f, ofEntry entry cwd = .error f) ↔
        entry = "" ∨ (isAbsolute entry = false ∧ isAbsolute cwd = false) ∨
          normalize (Path.join cwd entry) = "/") ∧
      (∀ f, ofEntry entry cwd = .error f ↔ Refuses entry cwd f) ∧
      ∀ root, ofEntry entry cwd = .ok root →
        root.WellFormed ∧
          (∃ n, IsName n ∧ normalize (Path.join cwd entry) = root.join n) ∧
          (∀ n cwd', IsName n → ofEntry (root.join n) cwd' = .ok root) ∧
          ∀ cwd', ofEntry root.settingsPath cwd' = .ok root := by
  refine ⟨?fails, fun f => ofEntry_eq_error_iff, fun root hroot => ⟨?wellFormed, ?named,
    fun n cwd' hn => ofEntry_join hroot hn cwd', ofEntry_join hroot isName_settingsName⟩⟩
  case fails =>
    rw [← exists_refuses_iff]
    exact exists_congr fun f => ofEntry_eq_error_iff
  all_goals
    obtain ⟨f, n, hf, habs, hn, hplace, hpath⟩ := ofEntry_eq_ok hroot
    obtain ⟨path⟩ := root
    obtain rfl : path = f.toPath := hpath
  case wellFormed => exact wellFormed_toPath hf habs
  case named =>
    refine ⟨n, hn, ?_⟩
    rw [normalize_eq_toPath, hplace]
    exact (hf.join_toPath hn).symm

theorem resolution_exact_of_detours :
    ofEntry "../../../etc/./x/..//make/" "/repo/docs" = .ok ⟨"/etc"⟩ ∧
      ofEntry "/etc/docmake.toml" "nowhere" = .ok ⟨"/etc"⟩ ∧
      ofEntry ".." "/repo" = .error (.noContainer "/") := by
  have hroot : ofEntry "../../../etc/./x/..//make/" "/repo/docs" = .ok ⟨"/etc"⟩ := by rfl
  obtain ⟨-, -, hfound⟩ := resolution_exact "../../../etc/./x/..//make/" "/repo/docs"
  obtain ⟨-, -, -, hsettings⟩ := hfound ⟨"/etc"⟩ hroot
  obtain ⟨-, hfails, -⟩ := resolution_exact ".." "/repo"
  have htop := (hfails (.noContainer "/")).mpr (.top (by decide) (.inr (by decide)) (by decide))
  exact ⟨hroot, hsettings "nowhere", htop⟩

/--
Where two joined paths lead depends on the normal form of each alone. So the root of an entry does
not depend on how the entry and the directory are spelled, nor on whether they are given apart.
-/
theorem resolution_of_any_spelling :
    (∀ p q : Path,
        normalize (Path.join p q) = normalize (Path.join (normalize p) (normalize q))) ∧
      (∀ entry cwd : Path, isAbsolute cwd = true → normalize entry ≠ "" →
        ofEntry entry cwd = ofEntry (normalize entry) (normalize cwd)) ∧
      ∀ entry cwd cwd' : Path, entry ≠ "" → isAbsolute cwd = true →
        ofEntry entry cwd = ofEntry (Path.join cwd entry) cwd' := by
  refine ⟨fun p q => (normalize_join_normalize p q).symm, ?normal, ?joined⟩
  case normal =>
    intro entry cwd hcwd hnormal
    have hentry : entry ≠ "" := by
      rintro rfl
      exact hnormal (by decide)
    have habs : isAbsolute (Path.join cwd entry) = true := isAbsolute_join_iff.mpr (.inr hcwd)
    have habs' : isAbsolute (Path.join (normalize cwd) (normalize entry)) = true :=
      isAbsolute_join_iff.mpr (.inr ((isAbsolute_normalize cwd).trans hcwd))
    rw [ofEntry_of_absolute hentry habs, ofEntry_of_absolute hnormal habs',
      normalize_join_normalize]
  case joined =>
    intro entry cwd cwd' hentry hcwd
    have habs : isAbsolute (Path.join cwd entry) = true := isAbsolute_join_iff.mpr (.inr hcwd)
    have hsame : Path.join cwd' (Path.join cwd entry) = Path.join cwd entry :=
      join_of_absolute cwd' habs
    have habs' : isAbsolute (Path.join cwd' (Path.join cwd entry)) = true :=
      (congrArg isAbsolute hsame).trans habs
    rw [ofEntry_of_absolute hentry habs, ofEntry_of_absolute (join_ne_empty hentry) habs', hsame]

theorem resolution_of_any_spelling_of_detours :
    normalize (Path.join "/a//b/" "../../../c/.") = normalize (Path.join "/a/b" "../../../c") ∧
      ofEntry "./docs//../docs/make" "/repo/x/.." = ofEntry "docs/make" "/repo" ∧
      ofEntry "./docs//../docs/make" "/repo/x/.." =
        ofEntry "/repo/x/.././docs//../docs/make" "elsewhere" := by
  obtain ⟨hjoin, hnormal, hjoined⟩ := resolution_of_any_spelling
  have hentry : normalize "./docs//../docs/make" = "docs/make" := by decide
  have hcwd : normalize "/repo/x/.." = "/repo" := by decide
  have hfirst : normalize "/a//b/" = "/a/b" := by decide
  have hsecond : normalize "../../../c/." = "../../../c" := by decide
  refine ⟨?_, ?_, ?_⟩
  · have h := hjoin "/a//b/" "../../../c/."
    rwa [hfirst, hsecond] at h
  · have h := hnormal "./docs//../docs/make" "/repo/x/.." (by decide) (by rw [hentry]; decide)
    rwa [hentry, hcwd] at h
  · exact hjoined "./docs//../docs/make" "/repo/x/.." "elsewhere" (by decide) (by decide)

end ProjectRoot
end DocLaunch
