import DocLaunch.Proofs.Path.NormalForm

namespace DocLaunch.Path

/-- One path goes on where another ends, by one name or more. -/
def StrictlyBelow (p base : Path) : Prop :=
  isAbsolute p = isAbsolute base ∧
    ∃ (n : String) (names : List String), segments p = segments base ++ (n :: names).map .name

/-- One path is another or lies strictly below it. -/
def Within (p base : Path) : Prop :=
  p = base ∨ StrictlyBelow p base

theorem StrictlyBelow.trans {p q r : Path} (hpq : StrictlyBelow p q) (hqr : StrictlyBelow q r) :
    StrictlyBelow p r := by
  obtain ⟨habs, n, names, hsegs⟩ := hpq
  obtain ⟨habs', m, more, hsegs'⟩ := hqr
  refine ⟨habs.trans habs', m, more ++ n :: names, ?_⟩
  rw [hsegs, hsegs', List.append_assoc, ← List.map_append, List.cons_append]

theorem Within.trans {p q r : Path} (hpq : Within p q) (hqr : Within q r) : Within p r := by
  rcases hpq with rfl | hpq
  · exact hqr
  · rcases hqr with rfl | hqr
    · exact .inr hpq
    · exact .inr (hpq.trans hqr)

namespace NormalForm

def down (f : NormalForm) (names : List String) : NormalForm :=
  { f with names := names.reverse ++ f.names }

theorem segments_down (f : NormalForm) (names : List String) :
    (f.down names).segments = f.segments ++ names.map .name := by
  simp [down, segments]

theorem foldl_step_down {l : List Segment} (hl : .parent ∉ l) (f : NormalForm) :
    ∃ names, l.foldl step f = f.down names := by
  induction l generalizing f with
  | nil => exact ⟨[], rfl⟩
  | cons s l ih =>
    have hrest : .parent ∉ l := fun h => hl (List.mem_cons_of_mem s h)
    cases s with
    | stay => exact ih hrest f
    | parent => exact absurd List.mem_cons_self hl
    | name n =>
      obtain ⟨names, hnames⟩ := ih hrest (f.step (.name n))
      refine ⟨n :: names, hnames.trans ?_⟩
      simp [down, step]

theorem Sound.within_toPath {f : NormalForm} {names : List String} (hf : f.Sound)
    (hd : (f.down names).Sound) : Within (f.down names).toPath f.toPath := by
  cases names with
  | nil => exact .inl rfl
  | cons n names =>
    refine .inr ⟨?_, n, names, ?_⟩
    · rw [hd.isAbsolute_toPath, hf.isAbsolute_toPath]
      rfl
    · rw [hd.segments_toPath, hf.segments_toPath, segments_down]

end NormalForm

/-- Joining a relative path that does not go up leads to a place below. -/
theorem normalize_join_within {p q : Path} (hq : isAbsolute q = false)
    (hup : .parent ∉ segments q) : Within (normalize (join p q)) (normalize p) := by
  have hsound := NormalForm.ofPath_sound (join p q)
  obtain ⟨names, hnames⟩ := NormalForm.foldl_step_down hup (.ofPath p)
  rw [normalize_eq_toPath, normalize_eq_toPath p]
  rw [NormalForm.ofPath_join hq, hnames] at hsound ⊢
  exact (NormalForm.ofPath_sound p).within_toPath hsound

end DocLaunch.Path
