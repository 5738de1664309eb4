import DocLaunch.FileSystem.Basic
import DocLaunch.Proofs.Path.Normalization

namespace DocLaunch

open DocLaunch.Path

/--
Directories, and whatever else stands in them under a name. Above the top is the top itself. Where
every node counts as a directory, one may also stay at a leaf or go up from it.
-/
structure Tree (α : Type*) where
  top : α
  isDirectory : α → Bool
  parent : α → α
  child? : α → String → Option α
  parent_top : parent top = top
  parent_child : ∀ {here there : α} {n : String}, child? here n = some there → parent there = here

namespace Tree

variable {α : Type*} (t : Tree α)

/-- One piece of a path further. Only in a directory there is anywhere to go, or to stay. -/
def move (here : α) (piece : String) : Option α :=
  if !t.isDirectory here then none
  else if piece = "" ∨ piece = "." then some here
  else if piece = ".." then some (t.parent here)
  else t.child? here piece

def follow (start : α) (l : List String) : Option α :=
  l.foldlM t.move start

def walk (start : α) (p : Path) : Option α :=
  t.follow (if isAbsolute p then t.top else start) (pieces p)

variable {t} {start here there : α} {l : List String} {piece n : String}

theorem isDirectory_of_move (h : t.move here piece = some there) : t.isDirectory here = true := by
  by_contra hdir
  rw [move, if_pos (by simpa using hdir)] at h
  cases h

theorem move_of_isDirectory (hdir : t.isDirectory here = true) :
    t.move here piece =
      if piece = "" ∨ piece = "." then some here
      else if piece = ".." then some (t.parent here)
      else t.child? here piece :=
  if_neg (by simp [hdir])

theorem move_empty_iff : t.move here "" = some there ↔ t.isDirectory here = true ∧ there = here := by
  constructor
  · intro h
    have hdir := isDirectory_of_move h
    rw [move_of_isDirectory hdir] at h
    exact ⟨hdir, (Option.some.inj h).symm⟩
  · rintro ⟨hdir, rfl⟩
    rw [move_of_isDirectory hdir]
    rfl

theorem eq_of_move_stay (h : t.move here "." = some there) : there = here := by
  rw [move_of_isDirectory (isDirectory_of_move h)] at h
  exact (Option.some.inj h).symm

theorem eq_of_move_parent (h : t.move here ".." = some there) : there = t.parent here := by
  rw [move_of_isDirectory (isDirectory_of_move h)] at h
  exact (Option.some.inj h).symm

theorem move_name (hn : IsName n) (hdir : t.isDirectory here = true) :
    t.move here n = t.child? here n := by
  rw [move_of_isDirectory hdir, if_neg (not_or.mpr ⟨hn.ne_empty, hn.ne_stay⟩),
    if_neg hn.ne_parent]

theorem parent_of_move_name (hn : IsName n) (h : t.move here n = some there) :
    t.parent there = here := by
  rw [move_name hn (isDirectory_of_move h)] at h
  exact t.parent_child h

theorem follow_cons :
    t.follow start (piece :: l) = some there ↔
      ∃ here, t.move start piece = some here ∧ t.follow here l = some there :=
  Option.bind_eq_some_iff

theorem follow_concat :
    t.follow start (l ++ [piece]) = some there ↔
      ∃ here, t.follow start l = some here ∧ t.move here piece = some there := by
  have hpiece (here : α) : t.follow here [piece] = t.move here piece := bind_pure _
  have hsplit : t.follow start (l ++ [piece]) =
      (t.follow start l).bind fun here => t.follow here [piece] := List.foldlM_append
  simp only [hsplit, Option.bind_eq_some_iff, hpiece]

theorem isDirectory_of_follow (hl : l ≠ []) (h : t.follow start l = some there) :
    t.isDirectory start = true := by
  cases l with
  | nil => exact absurd rfl hl
  | cons piece l =>
    obtain ⟨here, hmove, -⟩ := follow_cons.mp h
    exact isDirectory_of_move hmove

theorem follow_filter (h : t.follow start l = some there) :
    t.follow start (l.filter (· ≠ "")) = some there := by
  induction l generalizing start with
  | nil => exact h
  | cons piece l ih =>
    obtain ⟨here, hmove, hrest⟩ := follow_cons.mp h
    by_cases hpiece : piece = ""
    · subst hpiece
      obtain ⟨-, rfl⟩ := move_empty_iff.mp hmove
      exact ih hrest
    · rw [List.filter_cons_of_pos (by simpa using hpiece)]
      exact follow_cons.mpr ⟨here, hmove, ih hrest⟩

/-- Empty pieces may be put in, but one at the end demands a directory. -/
theorem follow_of_filter (h : t.follow start (l.filter (· ≠ "")) = some there)
    (hlast : l.getLast? = some "" → t.isDirectory there = true) :
    t.follow start l = some there := by
  induction l generalizing start with
  | nil => exact h
  | cons piece l ih =>
    have hrest : l.getLast? = some "" → t.isDirectory there = true := by
      intro hl
      apply hlast
      rw [List.getLast?_cons, hl]
      rfl
    by_cases hpiece : piece = ""
    · subst hpiece
      have hfollow : t.follow start l = some there := ih h hrest
      have hdir : t.isDirectory start = true := by
        cases l with
        | nil =>
          obtain rfl : start = there := Option.some.inj h
          exact hlast rfl
        | cons => exact isDirectory_of_follow (List.cons_ne_nil _ _) hfollow
      exact follow_cons.mpr ⟨start, move_empty_iff.mpr ⟨hdir, rfl⟩, hfollow⟩
    · rw [List.filter_cons_of_pos (by simpa using hpiece)] at h
      obtain ⟨here, hmove, h⟩ := follow_cons.mp h
      exact follow_cons.mpr ⟨here, hmove, ih h hrest⟩

theorem isDirectory_of_follow_empty_last (h : t.follow start l = some there)
    (hlast : l.getLast? = some "") : t.isDirectory there = true := by
  obtain ⟨front, rfl⟩ := List.getLast?_eq_some_iff.mp hlast
  obtain ⟨here, -, hmove⟩ := follow_concat.mp h
  obtain ⟨hdir, rfl⟩ := move_empty_iff.mp hmove
  exact hdir

/-- What the segments of a path lead to is what the path leads to, if it is fit for a last slash. -/
theorem walk_eq_some_iff {p : Path} :
    t.walk start p = some there ↔
      t.follow (if isAbsolute p then t.top else start) ((segments p).map Segment.text) =
          some there ∧
        (p = "" ∨ endsInSlash p = true → t.isDirectory there = true) := by
  rw [← filter_pieces, ← getLast?_pieces_eq_empty_iff]
  constructor
  · intro h
    exact ⟨follow_filter h, isDirectory_of_follow_empty_last h⟩
  · rintro ⟨h, hlast⟩
    exact follow_of_filter h hlast

/-- One segment more: if it leads somewhere, then so does the form that it leads to. -/
theorem follow_step {f : NormalForm} (hf : f.Sound) (hstart : f.absolute = true → start = t.top)
    {s : Segment} (hhere : t.follow start (f.segments.map Segment.text) = some here)
    (hmove : t.move here s.text = some there) :
    t.follow start ((f.step s).segments.map Segment.text) = some there := by
  rcases f.step_cases s with ⟨hs, hsame⟩ | hlast | ⟨n, hn, rfl, hback⟩
  · -- Nothing is done where one stays, and above the top.
    rw [hsame, hhere]
    rcases hs with rfl | ⟨rfl, habs, hnames⟩
    · rw [eq_of_move_stay hmove]
    · have hnil : f.segments = [] := by simp [NormalForm.segments, hf.grounded habs, hnames]
      rw [hnil] at hhere
      obtain rfl : start = here := Option.some.inj hhere
      rw [eq_of_move_parent hmove, hstart habs, t.parent_top]
  · rw [hlast, List.map_append]
    exact follow_concat.mpr ⟨here, hhere, hmove⟩
  · -- The name led here from where the way up leads now.
    rw [hback, List.map_append] at hhere
    obtain ⟨above, habove, hname⟩ := follow_concat.mp hhere
    rw [eq_of_move_parent hmove, parent_of_move_name (hf.isName n hn) hname]
    exact habove

/-- Some segments lead where the form that they come to leads. -/
theorem follow_form {absolute : Bool} (hstart : absolute = true → start = t.top)
    {segs : List Segment} (hsegs : ∀ s ∈ segs, s ≠ .stay → s.Moves)
    (h : t.follow start (segs.map Segment.text) = some there) :
    t.follow start
      ((segs.foldl NormalForm.step (.start absolute)).segments.map Segment.text) = some there := by
  induction segs using List.reverseRecOn generalizing there with
  | nil => exact h
  | append_singleton segs s ih =>
    rw [List.map_append] at h
    obtain ⟨here, hhere, hmove⟩ := follow_concat.mp h
    have hinit : ∀ s ∈ segs, s ≠ .stay → s.Moves := fun u hu => hsegs u (by simp [hu])
    have hsound := NormalForm.foldl_sound (NormalForm.start_sound absolute) hinit
    have habs := NormalForm.absolute_foldl segs (.start absolute)
    rw [List.foldl_append]
    exact follow_step hsound (fun h => hstart (habs.symm.trans h)) (ih hinit hhere) hmove

theorem walk_normalize {p : Path} (h : t.walk start p = some there) :
    t.walk start (normalize p) = some there := by
  have hdir : t.isDirectory (if isAbsolute p then t.top else start) = true :=
    isDirectory_of_follow (by simp [pieces, List.splitOn_ne_nil]) h
  obtain ⟨hsegs, -⟩ := walk_eq_some_iff.mp h
  have hform : t.follow (if isAbsolute p then t.top else start)
      ((NormalForm.ofPath p).segments.map Segment.text) = some there :=
    follow_form (fun habs => if_pos habs) (fun s hs => moves_of_mem_segments hs) hsegs
  rw [walk_eq_some_iff, isAbsolute_normalize, segments_normalize]
  refine ⟨hform, fun hlast => ?_⟩
  -- A text in normal form that ends in an empty piece leads nowhere but to its start.
  have hnil : segments (normalize p) = [] := by
    rcases hlast with hempty | hslash
    · rw [hempty, segments_empty]
    · rw [(isNormal_normalize p).no_final_slash hslash]
      rfl
  rw [← segments_normalize, hnil] at hform
  exact Option.some.inj hform ▸ hdir

theorem eq_of_walk_empty (h : t.walk start "" = some there) : there = start := by
  obtain ⟨hfollow, -⟩ := walk_eq_some_iff.mp h
  exact (Option.some.inj hfollow).symm

/--
Wherever one starts in a tree without links, the normal form of a path leads to the node that the
path leads to. A normal form without text stands for the start.
-/
theorem normal_form_leads_there {p : Path} (h : t.walk start p = some there) :
    t.walk start (normalize p) = some there ∧ (normalize p = "" → there = start) := by
  have hnormal := walk_normalize h
  refine ⟨hnormal, fun hempty => ?_⟩
  rw [hempty] at hnormal
  exact eq_of_walk_empty hnormal

end Tree

/-- The tree of a file system in which there are no links. Names that are too long lead nowhere. -/
def FileSystem.tree (fs : FileSystem) : Tree Place where
  top := []
  isDirectory here := (fs.node? here).any Node.isDirectory
  parent := List.tail
  child? here n :=
    if n.utf8ByteSize ≤ maxName ∧ (fs.node? (n :: here)).isSome then some (n :: here) else none
  parent_top := rfl
  parent_child h := by
    obtain ⟨-, hthere⟩ := Option.ite_none_right_eq_some.mp h
    cases hthere
    rfl

def besideSources : FileSystem :=
  ⟨[(["repo"], .directory), (["docs", "repo"], .directory), (["src", "repo"], .directory),
    (["make", "docs", "repo"], .file .empty true)]⟩

theorem Tree.normal_form_leads_there_of_detours :
    besideSources.tree.walk ["src", "repo"] ".././../..//repo/src/../docs/make" =
        some ["make", "docs", "repo"] ∧
      besideSources.tree.walk ["src", "repo"] "../../../repo/docs/make" =
        some ["make", "docs", "repo"] := by
  have hwalk : besideSources.tree.walk ["src", "repo"] ".././../..//repo/src/../docs/make" =
      some ["make", "docs", "repo"] := by rfl
  have hnormal : normalize ".././../..//repo/src/../docs/make" = "../../../repo/docs/make" := by
    decide
  exact ⟨hwalk, hnormal ▸ (Tree.normal_form_leads_there hwalk).1⟩

end DocLaunch
