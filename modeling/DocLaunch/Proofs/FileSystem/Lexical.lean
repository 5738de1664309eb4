import Mathlib.Data.String.Basic
import DocLaunch.FileSystem.Access
import DocLaunch.Proofs.FileSystem.Tree

namespace DocLaunch

namespace Path

theorem sublist_intercalate {α : Type*} {sep : List α} {l l' : List (List α)}
    (h : l.Sublist l') : (sep.intercalate l).Sublist (sep.intercalate l') := by
  induction h with
  | slnil => exact .slnil
  | @cons l l' x h ih =>
    cases l' with
    | nil =>
      rw [List.sublist_nil.mp h]
      exact List.nil_sublist _
    | cons y l' =>
      rw [List.intercalate_cons_cons]
      exact ih.trans (List.sublist_append_right _ _)
  | @cons_cons l l' x h ih =>
    cases l with
    | nil =>
      rw [List.intercalate_singleton]
      cases l' with
      | nil => rw [List.intercalate_singleton]
      | cons y l' =>
        rw [List.intercalate_cons_cons, List.append_assoc]
        exact List.sublist_append_left _ _
    | cons z l =>
      cases l' with
      | nil => cases h
      | cons y l' =>
        rw [List.intercalate_cons_cons, List.intercalate_cons_cons]
        exact (List.Sublist.refl _).append ih

theorem text_filterMap_sublist (l : List (List Char)) :
    ((l.filterMap Segment.ofPiece?).map fun s => s.text.toList).Sublist l := by
  induction l with
  | nil => exact .slnil
  | cons piece l ih =>
    cases h : Segment.ofPiece? piece with
    | none =>
      rw [List.filterMap_cons_none h]
      exact ih.cons piece
    | some s =>
      rw [List.filterMap_cons_some h, List.map_cons, Segment.text_of_ofPiece? h,
        String.toList_ofList]
      exact ih.cons_cons piece

theorem NormalForm.segments_step_sublist (f : NormalForm) (s : Segment) :
    (f.step s).segments.Sublist (f.segments ++ [s]) := by
  rcases f.step_cases s with ⟨-, hsame⟩ | hlast | ⟨n, -, -, hback⟩
  · rw [hsame]
    exact List.sublist_append_left _ _
  · rw [hlast]
  · rw [hback, List.append_assoc]
    exact List.sublist_append_left _ _

theorem NormalForm.segments_foldl_sublist (absolute : Bool) (l : List Segment) :
    (l.foldl step (start absolute)).segments.Sublist l := by
  induction l using List.reverseRecOn with
  | nil => exact .slnil
  | append_singleton l s ih =>
    rw [List.foldl_append]
    exact (segments_step_sublist _ s).trans (ih.append (.refl [s]))

theorem normalize_sublist (p : Path) : (normalize p).toList.Sublist p.toList := by
  have hform : (NormalForm.ofPath p).segments.Sublist (segments p) :=
    NormalForm.segments_foldl_sublist (isAbsolute p) (segments p)
  have hsegs := hform.map fun s => s.text.toList
  have hbody (cs : List Char) (hcs : segments p = (cut cs).filterMap Segment.ofPiece?) :
      (body (NormalForm.ofPath p).segments).Sublist cs := by
    have hcut : (body (NormalForm.ofPath p).segments).Sublist (['/'].intercalate (cut cs)) := by
      apply sublist_intercalate
      have htexts := text_filterMap_sublist (cut cs)
      rw [← hcs] at htexts
      exact hsegs.trans htexts
    rwa [cut_eq_splitOn, List.intercalate_splitOn] at hcut
  rw [normalize_eq_toPath, NormalForm.toPath, toList_ofSegments, NormalForm.absolute_ofPath]
  cases habs : isAbsolute p with
  | false =>
    rw [if_neg Bool.false_ne_true, List.nil_append]
    exact hbody p.toList rfl
  | true =>
    obtain ⟨cs, hcs⟩ := List.head?_eq_some_iff.mp (beq_iff_eq.mp habs)
    have hsame : segments p = (cut cs).filterMap Segment.ofPiece? := by
      rw [segments, hcs, cut, if_pos rfl, List.filterMap_cons_none rfl]
    rw [if_pos rfl, List.singleton_append, hcs]
    exact (hbody cs hsame).cons_cons '/'

end Path

namespace FileSystem

open DocLaunch.Path

def LinkFree (fs : FileSystem) : Prop :=
  ∀ here target, fs.node? here ≠ some (.link target)

variable {fs : FileSystem} {here place cwd : Place} {node : Node} {found : Target} {p : Path}
  {last : LastLink} {jump : Place → List Segment → Bool → Except SystemFault Target}
  {s : Segment} {l : List Segment} {slash : Bool}

theorem isDirectory_tree : fs.tree.isDirectory here = (fs.node? here).any Node.isDirectory :=
  rfl

theorem isDirectory_tree_iff :
    fs.tree.isDirectory here = true ↔ fs.node? here = some .directory := by
  rw [isDirectory_tree]
  cases fs.node? here with
  | none => simp
  | some node => cases node <;> simp [Node.isDirectory]

theorem node?_of_walkSteps (h : walkSteps fs last jump here (s :: l) slash = .ok found) :
    fs.node? here = some .directory := by
  unfold walkSteps at h
  split at h
  · cases h
  · next hdir => exact hdir
  · cases h

theorem move_tree_name {n : String} (hn : IsName n) (hdir : fs.node? here = some .directory) :
    fs.tree.move here n =
      if n.utf8ByteSize ≤ maxName ∧ (fs.node? (n :: here)).isSome then some (n :: here)
      else none :=
  Tree.move_name hn (isDirectory_tree_iff.mpr hdir)

theorem walkSteps_of_directory (hfree : fs.LinkFree) (hs : s ≠ .stay → s.Moves)
    (hdir : fs.node? here = some .directory) (hfound : found.node?.isSome) :
    walkSteps fs last jump here (s :: l) slash = .ok found ↔
      ∃ there, fs.tree.move here s.text = some there ∧
        walkSteps fs last jump there l slash = .ok found := by
  have htree : fs.tree.isDirectory here = true := isDirectory_tree_iff.mpr hdir
  rw [walkSteps.eq_def]
  simp only [hdir]
  cases s with
  | stay =>
    have hstay : fs.tree.move here Segment.stay.text = some here :=
      Tree.move_of_isDirectory htree
    simp [hstay]
  | parent =>
    have hparent : fs.tree.move here Segment.parent.text = some here.tail :=
      Tree.move_of_isDirectory htree
    simp [hparent]
  | name n =>
    have hn : IsName n := hs Segment.noConfusion
    simp only [Segment.text, move_tree_name hn hdir]
    by_cases hsize : maxName < n.utf8ByteSize
    · simp [hsize, Nat.not_le.mpr hsize]
    · simp only [hsize, Nat.not_lt.mp hsize, ↓reduceIte, true_and]
      cases hnode : fs.node? (n :: here) with
      | none =>
        have hnothing : (⟨n :: here, none, slash⟩ : Target) ≠ found := by
          rintro rfl
          cases hfound
        by_cases hl : l.isEmpty <;> simp [hl, hnothing]
      | some node =>
        cases node with
        | link target => exact absurd hnode (hfree _ _)
        | directory => simp
        | file content executable => simp

theorem walkSteps_eq_ok_iff (hfree : fs.LinkFree) (hl : ∀ s ∈ l, s ≠ .stay → s.Moves)
    (hfound : found.node?.isSome) :
    walkSteps fs last jump here l slash = .ok found ↔
      fs.tree.follow here (l.map Segment.text) = some found.place ∧
        found.node? = fs.node? found.place ∧ found.slash = slash := by
  induction l generalizing here with
  | nil =>
    rw [walkSteps, Except.ok.injEq]
    constructor
    · rintro rfl
      exact ⟨rfl, rfl, rfl⟩
    · rintro ⟨hplace, hnode, rfl⟩
      obtain rfl : here = found.place := Option.some.inj hplace
      rw [← hnode]
  | cons s l ih =>
    have hs := hl s List.mem_cons_self
    have hrest : ∀ s ∈ l, s ≠ .stay → s.Moves := fun t ht => hl t (List.mem_cons_of_mem s ht)
    rw [List.map_cons, Tree.follow_cons]
    constructor
    · intro h
      have hdir := node?_of_walkSteps h
      obtain ⟨there, hmove, h⟩ := (walkSteps_of_directory hfree hs hdir hfound).mp h
      obtain ⟨hfollow, hnode, hslash⟩ := (ih hrest).mp h
      exact ⟨⟨there, hmove, hfollow⟩, hnode, hslash⟩
    · rintro ⟨⟨there, hmove, hfollow⟩, hnode, hslash⟩
      have hdir := isDirectory_tree_iff.mp (Tree.isDirectory_of_move hmove)
      refine (walkSteps_of_directory hfree hs hdir hfound).mpr ?_
      exact ⟨there, hmove, (ih hrest).mpr ⟨hfollow, hnode, hslash⟩⟩

theorem walk_eq_ok_iff (hfree : fs.LinkFree) (links : Nat) (hfound : found.node?.isSome) :
    walk fs last links here (segments p) slash = .ok found ↔
      fs.tree.follow here ((segments p).map Segment.text) = some found.place ∧
        found.node? = fs.node? found.place ∧ found.slash = slash := by
  have hsegs : ∀ s ∈ segments p, s ≠ .stay → s.Moves := fun s => moves_of_mem_segments
  cases links with
  | zero => exact walkSteps_eq_ok_iff hfree hsegs hfound
  | succ links => exact walkSteps_eq_ok_iff hfree hsegs hfound

structure Legible (p : Path) : Prop where
  no_nul : '\x00' ∉ p.toList
  ne_empty : p ≠ ""
  size : p.utf8ByteSize ≤ maxPath

theorem Legible.normalize (hp : Legible p) (hne : normalize p ≠ "") : Legible (normalize p) where
  no_nul hnul := hp.no_nul ((normalize_sublist p).subset hnul)
  ne_empty := hne
  size := by
    have hle := String.utf8Len_le_of_sublist (normalize_sublist p)
    rw [← String.utf8ByteSize_ofList, ← String.utf8ByteSize_ofList, String.ofList_toList,
      String.ofList_toList] at hle
    exact hle.trans hp.size

theorem legible_of_find (h : fs.find last cwd p = .ok found) : Legible p := by
  unfold find at h
  split at h
  · cases h
  · next hnul =>
    split at h
    · cases h
    · next hempty =>
      split at h
      · cases h
      · next hsize =>
        refine ⟨?_, ?_, Nat.not_lt.mp hsize⟩
        · simpa using hnul
        · exact fun hp => hempty (String.isEmpty_iff.mpr hp)

theorem find_of_legible (hp : Legible p) :
    fs.find last cwd p =
      walk fs last maxLinks (if isAbsolute p then [] else cwd) (segments p) (endsInSlash p) := by
  have hnul : p.toList.contains '\x00' = false := by simpa using hp.no_nul
  have hempty : ¬ p.isEmpty = true := fun h => hp.ne_empty (String.isEmpty_iff.mp h)
  rw [find, hnul, if_neg Bool.false_ne_true, if_neg hempty, if_neg (Nat.not_lt.mpr hp.size)]

theorem find_eq_ok_iff (hfree : fs.LinkFree) (hfound : found.node?.isSome) :
    fs.find last cwd p = .ok found ↔
      Legible p ∧ fs.tree.follow (if isAbsolute p then [] else cwd)
          ((segments p).map Segment.text) = some found.place ∧
        found.node? = fs.node? found.place ∧ found.slash = endsInSlash p := by
  constructor
  · intro h
    have hp := legible_of_find h
    rw [find_of_legible hp, walk_eq_ok_iff hfree maxLinks hfound] at h
    exact ⟨hp, h⟩
  · rintro ⟨hp, h⟩
    rwa [find_of_legible hp, walk_eq_ok_iff hfree maxLinks hfound]

theorem status_eq_ok_iff_find :
    fs.status cwd p = .ok (place, node) ↔
      ∃ slash, fs.find .follow cwd p = .ok ⟨place, some node, slash⟩ ∧
        (slash = true → node.isDirectory = true) := by
  rw [status]
  cases fs.find .follow cwd p with
  | error e => simp [Bind.bind, Except.bind]
  | ok found =>
    obtain ⟨there, node?, slash⟩ := found
    cases node? with
    | none => simp [Bind.bind, Except.bind]
    | some found =>
      constructor
      · intro h
        simp only [Bind.bind, Except.bind] at h
        split at h
        · cases h
        · next hdir =>
          cases h
          exact ⟨slash, rfl, by simpa using hdir⟩
      · rintro ⟨slash, hfound, hdir⟩
        cases hfound
        exact if_neg (by simpa using hdir)

theorem status_eq_ok_iff_walk (hfree : fs.LinkFree) :
    fs.status cwd p = .ok (place, node) ↔
      Legible p ∧ fs.tree.walk cwd p = some place ∧ fs.node? place = some node := by
  rw [status_eq_ok_iff_find, Tree.walk_eq_some_iff]
  constructor
  · rintro ⟨slash, hok, hdir⟩
    obtain ⟨hp, hfollow, hnode, rfl⟩ := (find_eq_ok_iff hfree rfl).mp hok
    refine ⟨hp, ⟨hfollow, fun hlast => ?_⟩, hnode.symm⟩
    have hplace := hdir (hlast.resolve_left hp.ne_empty)
    rw [isDirectory_tree, ← hnode]
    exact hplace
  · rintro ⟨hp, ⟨hfollow, hlast⟩, hnode⟩
    have hok : fs.find .follow cwd p = .ok ⟨place, some node, endsInSlash p⟩ :=
      (find_eq_ok_iff hfree rfl).mpr ⟨hp, hfollow, hnode.symm, rfl⟩
    refine ⟨endsInSlash p, hok, fun hslash => ?_⟩
    have hplace := hlast (.inr hslash)
    rw [isDirectory_tree, hnode] at hplace
    exact hplace

/--
Without links, the normal form of a path that leads to something leads to the same. Only the empty
text is not looked up; it stands for the directory where the lookup starts.
-/
theorem status_normalize (hfree : fs.LinkFree) (h : fs.status cwd p = .ok (place, node)) :
    if normalize p = "" then place = cwd ∧ node = .directory
    else fs.status cwd (normalize p) = .ok (place, node) := by
  obtain ⟨hp, hwalk, hnode⟩ := (status_eq_ok_iff_walk hfree).mp h
  have hnormal := Tree.walk_normalize hwalk
  split
  · next hempty =>
    rw [hempty] at hnormal
    obtain ⟨-, hdir⟩ := Tree.walk_eq_some_iff.mp hnormal
    have hdirectory := isDirectory_tree_iff.mp (hdir (.inl rfl))
    rw [hnode] at hdirectory
    exact ⟨Tree.eq_of_walk_empty hnormal, Option.some.inj hdirectory⟩
  · next hne => exact (status_eq_ok_iff_walk hfree).mpr ⟨hp.normalize hne, hnormal, hnode⟩

end FileSystem
end DocLaunch
