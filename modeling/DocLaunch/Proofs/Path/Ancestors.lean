import Mathlib.Data.List.TakeWhile
import DocLaunch.Proofs.Path.Segments

namespace DocLaunch.Path

def segmentsOf (cs : List Char) : List Segment :=
  (cut cs).filterMap Segment.ofPiece?

/-- Segments that lead nowhere else. -/
def Stays (l : List Segment) : Prop :=
  ∀ s ∈ l, s = .stay

variable {absolute : Bool} {cs back rest piece : List Char} {p q : Path}

theorem segmentsOf_slash (cs rest : List Char) :
    segmentsOf (cs ++ '/' :: rest) = segmentsOf cs ++ segmentsOf rest := by
  rw [segmentsOf, cut_eq_splitOn, List.splitOn_append_cons_self, List.filterMap_append,
    ← cut_eq_splitOn, ← cut_eq_splitOn]
  rfl

theorem segmentsOf_piece {s : Segment} (hslash : '/' ∉ piece)
    (hs : Segment.ofPiece? piece = some s) : segmentsOf piece = [s] := by
  rw [segmentsOf, cut_eq_splitOn, List.splitOn_eq_singleton hslash, List.filterMap_cons_some hs,
    List.filterMap_nil]

theorem Segment.exists_ofPiece? (hne : piece ≠ []) (hstay : piece ≠ ['.']) :
    ∃ s, ofPiece? piece = some s ∧ s ≠ .stay := by
  unfold ofPiece?
  split
  · exact absurd rfl hne
  · exact absurd rfl hstay
  · exact ⟨_, rfl, Segment.noConfusion⟩
  · exact ⟨_, rfl, Segment.noConfusion⟩

theorem segmentsOf_trimBack (absolute : Bool) (back : List Char) :
    ∃ stays, Stays stays ∧
      segmentsOf back.reverse = segmentsOf (trimBack absolute back).reverse ++ stays := by
  fun_induction trimBack absolute back with
  | case1 rest ih =>
    obtain ⟨stays, hstays, hrest⟩ := ih
    refine ⟨stays, hstays, ?_⟩
    rw [List.reverse_cons, segmentsOf_slash, hrest]
    exact List.append_nil _
  | case2 rest ih =>
    obtain ⟨stays, hstays, hrest⟩ := ih
    refine ⟨stays ++ [.stay], ?_, ?_⟩
    · intro s hs
      rcases List.mem_append.mp hs with hs | hs
      · exact hstays s hs
      · exact List.mem_singleton.mp hs
    · have hreverse : ('.' :: '/' :: rest).reverse = rest.reverse ++ '/' :: ['.'] := by simp
      rw [hreverse, segmentsOf_slash, hrest, List.append_assoc]
      rfl
  | case3 habs => exact ⟨[.stay], fun s hs => List.mem_singleton.mp hs, rfl⟩
  | case4 => exact ⟨[], fun s hs => absurd hs List.not_mem_nil, (List.append_nil _).symm⟩
  | case5 => exact ⟨[], fun s hs => absurd hs List.not_mem_nil, (List.append_nil _).symm⟩

theorem trimBack_suffix (absolute : Bool) (back : List Char) : trimBack absolute back <:+ back := by
  fun_induction trimBack absolute back with
  | case1 rest ih => exact ih.trans (List.suffix_cons _ _)
  | case2 rest ih => exact ih.trans ((List.suffix_cons _ _).trans (List.suffix_cons _ _))
  | case3 => exact List.nil_suffix
  | case4 => exact List.suffix_rfl
  | case5 => exact List.suffix_rfl

/-- A trimmed text ends in a piece that moves, unless it is a lone `.`. -/
theorem trimBack_eq_cons {c : Char} (h : trimBack absolute back = c :: rest) :
    c ≠ '/' ∧ (c = '.' → rest.head? ≠ some '/' ∧ (rest = [] → absolute = false)) := by
  fun_induction trimBack absolute back with
  | case1 _ ih => exact ih h
  | case2 _ ih => exact ih h
  | case3 => cases h
  | case4 habs =>
    cases h
    exact ⟨by decide, fun _ => ⟨by simp, fun _ => by simpa using habs⟩⟩
  | case5 back hslash hstay hdot =>
    subst h
    refine ⟨fun hc => hslash rest (by rw [hc]), ?_⟩
    rintro rfl
    refine ⟨fun hrest => ?_, fun hrest => absurd (by rw [hrest]) hdot⟩
    obtain ⟨rest, rfl⟩ := List.head?_eq_some_iff.mp hrest
    exact hstay rest rfl

theorem dropPiece_of_piece (hslash : '/' ∉ piece) : dropPiece absolute piece = [] := by
  have hdrop : piece.dropWhile (· != '/') = [] := by
    rw [List.dropWhile_eq_nil_iff]
    intro c hc
    rw [bne_iff_ne]
    rintro rfl
    exact hslash hc
  rw [dropPiece, hdrop]
  rfl

theorem dropPiece_append (hslash : '/' ∉ piece) (rest : List Char) :
    dropPiece absolute (piece ++ '/' :: rest) = trimBack absolute rest := by
  have hpiece : ∀ c ∈ piece, (c != '/') = true := by
    intro c hc
    rw [bne_iff_ne]
    rintro rfl
    exact hslash hc
  rw [dropPiece, List.dropWhile_append_of_pos hpiece]
  rw [List.dropWhile_cons_of_neg (by simp), trimBack]

theorem segmentsOf_dropPiece (hback : trimBack absolute cs = back) (hne : back ≠ []) :
    (back = ['.'] ∧ absolute = false) ∨ ∃ stays s, Stays stays ∧ s ≠ .stay ∧
      segmentsOf back.reverse = segmentsOf (dropPiece absolute back).reverse ++ stays ++ [s] := by
  obtain ⟨c, rest, hcons⟩ := List.exists_cons_of_ne_nil hne
  obtain ⟨hslash, hdot⟩ := trimBack_eq_cons (hback.trans hcons)
  by_cases hmem : '/' ∈ back
  · right
    obtain ⟨piece, after, rfl, hpiece⟩ := List.eq_append_cons_of_mem hmem
    have hpne : piece ≠ [] := by
      rintro rfl
      exact hslash (List.cons.inj hcons).1.symm
    have hstay : piece ≠ ['.'] := by
      rintro rfl
      obtain ⟨hc, hrest⟩ := List.cons.inj hcons
      exact (hdot hc.symm).1 (by rw [← hrest]; rfl)
    obtain ⟨s, hs, hmoves⟩ := Segment.exists_ofPiece? (by simpa using hpne)
      (fun h => hstay (List.reverse_eq_iff.mp h))
    obtain ⟨stays, hstays, htrim⟩ := segmentsOf_trimBack absolute after
    refine ⟨stays, s, hstays, hmoves, ?_⟩
    have hreverse : (piece ++ '/' :: after).reverse = after.reverse ++ '/' :: piece.reverse := by
      simp
    rw [hreverse, segmentsOf_slash, dropPiece_append hpiece, htrim,
      segmentsOf_piece (by simpa using hpiece) hs]
  · by_cases hstay : back = ['.']
    · left
      rw [hstay] at hcons
      obtain ⟨hc, hrest⟩ := List.cons.inj hcons
      exact ⟨hstay, (hdot hc.symm).2 hrest.symm⟩
    · right
      obtain ⟨s, hs, hmoves⟩ := Segment.exists_ofPiece? (by simpa using hne)
        (fun h => hstay (List.reverse_eq_iff.mp h))
      refine ⟨[], s, List.forall_mem_nil _, hmoves, ?_⟩
      rw [dropPiece_of_piece hmem, segmentsOf_piece (by simpa using hmem) hs]
      rfl

theorem segmentsOf_slash_cons (cs : List Char) : segmentsOf ('/' :: cs) = segmentsOf cs :=
  segmentsOf_slash [] cs

/--
Between the segments of a path and those of the text before its last piece there is one that moves,
and some that stay. Before a lone `.` there is nothing.
-/
theorem segments_parent? (h : parent? p = some q) :
    isAbsolute q = isAbsolute p ∧ (q = "" ∨ ∃ stays s stays', Stays stays ∧ s ≠ .stay ∧
      Stays stays' ∧ segments p = segments q ++ stays ++ s :: stays') := by
  have htext : ∀ r : Path, segments r = segmentsOf r.toList := fun _ => rfl
  have htrimmed : ∀ (absolute : Bool) (cs back : List Char), trimBack absolute cs.reverse = back →
      back ≠ [] → ¬ (back = ['.'] ∧ absolute = false) →
      ∃ stays s stays', Stays stays ∧ s ≠ .stay ∧ Stays stays' ∧
        segmentsOf cs = segmentsOf (dropPiece absolute back).reverse ++ stays ++ s :: stays' := by
    intro absolute cs back hback hne hdot
    obtain ⟨stays', hstays', hcs⟩ := segmentsOf_trimBack absolute cs.reverse
    obtain ⟨stays, s, hstays, hs, hpiece⟩ := (segmentsOf_dropPiece hback hne).resolve_left hdot
    rw [hback, hpiece, List.reverse_reverse] at hcs
    refine ⟨stays, s, stays', hstays, hs, hstays', ?_⟩
    rw [hcs, List.append_assoc _ [s]]
    rfl
  unfold parent? at h
  split at h
  · cases h
  · next rest hp =>
    split at h
    · cases h
    · next hne =>
      cases h
      refine ⟨by simp [isAbsolute, hp], .inr ?_⟩
      obtain ⟨stays, s, stays', hstays, hs, hstays', hrest⟩ :=
        htrimmed true rest _ rfl hne fun h => Bool.noConfusion h.2
      refine ⟨stays, s, stays', hstays, hs, hstays', ?_⟩
      rw [htext, htext, hp, String.toList_ofList, segmentsOf_slash_cons, segmentsOf_slash_cons,
        hrest]
  · next hempty hslash =>
    cases h
    generalize hback : trimBack false p.toList.reverse = back
    constructor
    · -- What is left is a start of the text, and that has no slash in front.
      have hsuffix : dropPiece false back <:+ p.toList.reverse := by
        refine ((trimBack_suffix _ _).trans (List.dropWhile_suffix _)).trans ?_
        exact hback ▸ trimBack_suffix _ _
      obtain ⟨after, hafter⟩ := List.reverse_prefix.mpr hsuffix
      rw [List.reverse_reverse] at hafter
      rw [isAbsolute, isAbsolute, String.toList_ofList]
      cases hq : (dropPiece false back).reverse with
      | nil =>
        cases hp : p.toList with
        | nil => rfl
        | cons c cs =>
          have hc : c ≠ '/' := fun hc => hslash cs (by rw [hp, hc])
          simp [hc]
      | cons c cs =>
        rw [← hafter, hq]
        rfl
    · by_cases hdrop : dropPiece false back = []
      · left
        rw [hdrop]
        rfl
      · right
        have hne : back ≠ [] := by
          rintro rfl
          exact hdrop rfl
        have hdot : ¬ (back = ['.'] ∧ false = false) := by
          rintro ⟨rfl, -⟩
          exact hdrop rfl
        rw [htext, htext, String.toList_ofList]
        exact htrimmed false p.toList back hback hne hdot

end DocLaunch.Path
