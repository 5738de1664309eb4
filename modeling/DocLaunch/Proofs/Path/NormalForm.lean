import DocLaunch.Proofs.Path.Segments

namespace DocLaunch.Path

/-- A path without detours: some steps up, then names, of which the last comes first. -/
structure NormalForm where
  absolute : Bool
  ups : Nat
  names : List String
  deriving DecidableEq, Repr

namespace NormalForm

def start (absolute : Bool) : NormalForm := ⟨absolute, 0, []⟩

/-- One step further. Above the top there is nothing, so `..` stays there. -/
def step (f : NormalForm) : Segment → NormalForm
  | .stay => f
  | .name n => { f with names := n :: f.names }
  | .parent =>
    match f.names with
    | _ :: names => { f with names }
    | [] => if f.absolute then f else { f with ups := f.ups + 1 }

def ofPath (p : Path) : NormalForm :=
  (segments p).foldl step (start (isAbsolute p))

def segments (f : NormalForm) : List Segment :=
  List.replicate f.ups .parent ++ f.names.reverse.map .name

def toPath (f : NormalForm) : Path :=
  ofSegments f.absolute f.segments

/-- Nothing lies above the top, and one can go down by every name. -/
structure Sound (f : NormalForm) : Prop where
  grounded : f.absolute = true → f.ups = 0
  isName : ∀ n ∈ f.names, IsName n

theorem start_sound (absolute : Bool) : (start absolute).Sound :=
  ⟨fun _ => rfl, List.forall_mem_nil _⟩

theorem Sound.above {absolute : Bool} {ups : Nat} {n : String} {names : List String}
    (hf : Sound ⟨absolute, ups, n :: names⟩) : Sound ⟨absolute, ups, names⟩ :=
  ⟨hf.grounded, fun m hm => hf.isName m (List.mem_cons_of_mem n hm)⟩

theorem step_sound {f : NormalForm} (hf : f.Sound) {s : Segment} (hs : s ≠ .stay → s.Moves) :
    (f.step s).Sound := by
  cases s with
  | stay => exact hf
  | name n =>
    refine ⟨hf.grounded, fun m hm => ?_⟩
    obtain rfl | hm := List.mem_cons.mp hm
    · exact hs (by simp)
    · exact hf.isName m hm
  | parent =>
    obtain ⟨absolute, ups, names⟩ := f
    cases names with
    | cons n names => exact hf.above
    | nil =>
      cases absolute with
      | true => exact hf
      | false => exact ⟨fun h => absurd h Bool.false_ne_true, hf.isName⟩

theorem foldl_sound {f : NormalForm} (hf : f.Sound) {l : List Segment}
    (hl : ∀ s ∈ l, s ≠ .stay → s.Moves) : (l.foldl step f).Sound := by
  induction l generalizing f with
  | nil => exact hf
  | cons s l ih =>
    exact ih (step_sound hf (hl s List.mem_cons_self)) fun t ht => hl t (List.mem_cons_of_mem s ht)

theorem absolute_step (f : NormalForm) (s : Segment) : (f.step s).absolute = f.absolute := by
  cases s with
  | stay => rfl
  | name => rfl
  | parent =>
    obtain ⟨absolute, ups, names⟩ := f
    cases names with
    | cons => rfl
    | nil => cases absolute <;> rfl

theorem absolute_foldl (l : List Segment) (f : NormalForm) :
    (l.foldl step f).absolute = f.absolute := by
  induction l generalizing f with
  | nil => rfl
  | cons s l ih => exact (ih _).trans (absolute_step f s)

theorem absolute_ofPath (p : Path) : (ofPath p).absolute = isAbsolute p :=
  absolute_foldl _ _

theorem ofPath_sound (p : Path) : (ofPath p).Sound :=
  foldl_sound (start_sound _) fun _ hs => moves_of_mem_segments hs

theorem Sound.down {f : NormalForm} {n : String} (hf : f.Sound) (hn : IsName n) :
    Sound { f with names := n :: f.names } :=
  step_sound hf (s := .name n) fun _ => hn

theorem ofPath_of_absolute {p : Path} (habs : isAbsolute p = true) :
    ofPath p = start true ∨
      ∃ (f : NormalForm) (n : String), f.Sound ∧ f.absolute = true ∧ IsName n ∧
        ofPath p = { f with names := n :: f.names } := by
  have hsound := ofPath_sound p
  have hform := (absolute_ofPath p).trans habs
  generalize ofPath p = form at hsound hform
  obtain ⟨absolute, ups, names⟩ := form
  obtain rfl : absolute = true := hform
  obtain rfl : ups = 0 := hsound.grounded rfl
  cases names with
  | nil => exact .inl rfl
  | cons n names =>
    have hn : IsName n := hsound.isName n List.mem_cons_self
    exact .inr ⟨⟨true, 0, names⟩, n, hsound.above, rfl, hn, rfl⟩

theorem Sound.moves {f : NormalForm} (hf : f.Sound) : ∀ s ∈ f.segments, s.Moves := by
  intro s hs
  rcases List.mem_append.mp hs with hs | hs
  · rw [List.eq_of_mem_replicate hs]
    trivial
  · obtain ⟨n, hn, rfl⟩ := List.mem_map.mp hs
    exact hf.isName n (List.mem_reverse.mp hn)

theorem Sound.segments_toPath {f : NormalForm} (hf : f.Sound) :
    Path.segments f.toPath = f.segments :=
  segments_ofSegments _ hf.moves

theorem Sound.isAbsolute_toPath {f : NormalForm} (hf : f.Sound) :
    isAbsolute f.toPath = f.absolute :=
  isAbsolute_ofSegments _ hf.moves

theorem segments_name (f : NormalForm) (n : String) :
    segments { f with names := n :: f.names } = f.segments ++ [.name n] := by
  simp [segments]

theorem segments_up {f : NormalForm} (h : f.names = []) :
    segments { f with ups := f.ups + 1 } = f.segments ++ [.parent] := by
  simp [segments, h, List.replicate_succ']

/--
What a step does to the segments: it changes nothing, or stands behind them, or takes the name away
that stood last.
-/
theorem step_cases (f : NormalForm) (s : Segment) :
    (s = .stay ∨ s = .parent ∧ f.absolute = true ∧ f.names = []) ∧ f.step s = f ∨
      (f.step s).segments = f.segments ++ [s] ∨
      ∃ n ∈ f.names, s = .parent ∧ f.segments = (f.step s).segments ++ [.name n] := by
  cases s with
  | stay => exact .inl ⟨.inl rfl, rfl⟩
  | name n => exact .inr (.inl (segments_name f n))
  | parent =>
    obtain ⟨absolute, ups, names⟩ := f
    cases names with
    | cons n names =>
      exact .inr (.inr ⟨n, List.mem_cons_self, rfl, segments_name ⟨absolute, ups, names⟩ n⟩)
    | nil =>
      cases absolute with
      | true => exact .inl ⟨.inr ⟨rfl, rfl, rfl⟩, rfl⟩
      | false => exact .inr (.inl (segments_up (f := ⟨false, ups, []⟩) rfl))

theorem Sound.join_toPath {f : NormalForm} {n : String} (hf : f.Sound) (hn : IsName n) :
    join f.toPath n = toPath { f with names := n :: f.names } :=
  (join_ofSegments (s := .name n) _ hf.moves hn).trans (congrArg _ (segments_name f n).symm)

theorem Sound.parent?_toPath {f : NormalForm} {n : String} (hf : f.Sound) (hn : IsName n) :
    parent? (toPath { f with names := n :: f.names }) = some f.toPath := by
  rw [toPath, segments_name]
  exact parent?_ofSegments _ hf.moves hn

theorem Sound.advance_parent {f : NormalForm} (hf : f.Sound) :
    advance f.toPath .parent = (f.step .parent).toPath := by
  have hup (h : f.names = []) : join f.toPath ".." = toPath { f with ups := f.ups + 1 } :=
    (join_ofSegments _ hf.moves (s := .parent) trivial).trans
      (congrArg _ (segments_up h).symm)
  rw [advance, hf.segments_toPath, hf.isAbsolute_toPath]
  obtain ⟨absolute, ups, names⟩ := f
  cases names with
  | cons n names =>
    have hlast : (segments ⟨absolute, ups, n :: names⟩).getLast? = some (.name n) := by
      rw [segments_name ⟨absolute, ups, names⟩, List.getLast?_concat]
    have hn := hf.isName n List.mem_cons_self
    rw [hlast]
    simp only [step, hf.above.parent?_toPath hn, Option.getD_some]
  | nil =>
    cases ups with
    | zero => cases absolute <;> simp [segments, step, hup]
    | succ ups =>
      have hrel : absolute = false := by
        rw [Bool.eq_false_iff]
        exact fun h => Nat.succ_ne_zero ups (hf.grounded h)
      have hlast : (segments ⟨absolute, ups + 1, []⟩).getLast? = some .parent := by
        simp [segments, List.replicate_succ']
      subst hrel
      rw [hlast]
      exact hup rfl

/-- One step on the text is one step on what the text stands for. -/
theorem Sound.advance_toPath {f : NormalForm} (hf : f.Sound) {s : Segment}
    (hs : s ≠ .stay → s.Moves) : advance f.toPath s = (f.step s).toPath := by
  cases s with
  | stay => rfl
  | name n => exact hf.join_toPath (hs (by simp))
  | parent => exact hf.advance_parent

theorem Sound.foldl_advance {f : NormalForm} (hf : f.Sound) {l : List Segment}
    (hl : ∀ s ∈ l, s ≠ .stay → s.Moves) :
    l.foldl advance f.toPath = (l.foldl step f).toPath := by
  induction l generalizing f with
  | nil => rfl
  | cons s l ih =>
    have hs := hl s List.mem_cons_self
    rw [List.foldl_cons, List.foldl_cons, hf.advance_toPath hs]
    exact ih (step_sound hf hs) fun t ht => hl t (List.mem_cons_of_mem s ht)

theorem foldl_parents {absolute : Bool} {k : Nat} (h : absolute = true → k = 0) :
    (List.replicate k Segment.parent).foldl step (start absolute) = ⟨absolute, k, []⟩ := by
  induction k with
  | zero => rfl
  | succ k ih =>
    have hrel : absolute = false := by
      rw [Bool.eq_false_iff]
      exact fun ha => Nat.succ_ne_zero k (h ha)
    subst hrel
    rw [List.replicate_succ', List.foldl_append, ih fun ha => absurd ha Bool.false_ne_true]
    rfl

theorem foldl_names (names : List String) (f : NormalForm) :
    (names.map Segment.name).foldl step f = { f with names := names.reverse ++ f.names } := by
  induction names generalizing f with
  | nil => rfl
  | cons n names ih =>
    rw [List.map_cons, List.foldl_cons, ih]
    simp [step]

theorem Sound.ofPath_toPath {f : NormalForm} (hf : f.Sound) : ofPath f.toPath = f := by
  rw [ofPath, hf.segments_toPath, hf.isAbsolute_toPath, segments, List.foldl_append,
    foldl_parents hf.grounded, foldl_names]
  simp

theorem ofPath_join {p q : Path} (hq : isAbsolute q = false) :
    ofPath (join p q) = (Path.segments q).foldl step (ofPath p) := by
  rw [ofPath, segments_join hq, isAbsolute_join hq, List.foldl_append, ofPath]

end NormalForm

open NormalForm

/-- Normalizing a text gives the text of its steps and names. -/
theorem normalize_eq_toPath (p : Path) : normalize p = (ofPath p).toPath := by
  have hstart : (if isAbsolute p then "/" else "") = (start (isAbsolute p)).toPath := by
    cases isAbsolute p <;> decide
  rw [normalize, hstart]
  exact (start_sound _).foldl_advance fun _ hs => moves_of_mem_segments hs

theorem isAbsolute_normalize (p : Path) : isAbsolute (normalize p) = isAbsolute p := by
  rw [normalize_eq_toPath, (ofPath_sound p).isAbsolute_toPath, absolute_ofPath]

theorem segments_normalize (p : Path) : segments (normalize p) = (ofPath p).segments := by
  rw [normalize_eq_toPath, (ofPath_sound p).segments_toPath]

theorem NormalForm.ofPath_normalize (p : Path) : ofPath (normalize p) = ofPath p := by
  rw [normalize_eq_toPath, (ofPath_sound p).ofPath_toPath]

theorem normalize_normalize (p : Path) : normalize (normalize p) = normalize p := by
  rw [normalize_eq_toPath, NormalForm.ofPath_normalize, ← normalize_eq_toPath]

end DocLaunch.Path
