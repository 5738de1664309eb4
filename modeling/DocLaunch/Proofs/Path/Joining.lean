import DocLaunch.Proofs.Path.NormalForm

namespace DocLaunch.Path

theorem isAbsolute_join_iff {p q : Path} :
    isAbsolute (join p q) = true ↔ isAbsolute q = true ∨ isAbsolute p = true := by
  cases hq : isAbsolute q with
  | true => simp [join_of_absolute p hq, hq]
  | false => simp [isAbsolute_join hq]

theorem join_ne_empty {p q : Path} (hq : q ≠ "") : join p q ≠ "" := by
  have hlong (r : String) : r ++ q ≠ "" := by
    intro h
    have hlist := congrArg String.toList h
    rw [String.toList_append] at hlist
    exact hq (String.toList_eq_nil_iff.mp (List.append_eq_nil_iff.mp hlist).2)
  unfold join
  split
  · exact hq
  · split
    · exact hlong p
    · exact hlong (p ++ "/")

namespace NormalForm

theorem foldl_segments_step (f : NormalForm) {g : NormalForm} (hg : g.absolute = false)
    (s : Segment) : (g.step s).segments.foldl step f = (g.segments.foldl step f).step s := by
  rcases g.step_cases s with ⟨rfl | ⟨-, habs, -⟩, hsame⟩ | hlast | ⟨n, -, rfl, hback⟩
  · rfl
  · rw [hg] at habs
    cases habs
  · rw [hlast, List.foldl_append]
    rfl
  · -- Down by a name and up again: the form forgets both steps, and they lead back.
    rw [hback, List.foldl_append]
    rfl

/-- The form that some steps of a relative path come to leads where these steps lead. -/
theorem foldl_segments_foldl (f : NormalForm) (l : List Segment) :
    (l.foldl step (start false)).segments.foldl step f = l.foldl step f := by
  induction l using List.reverseRecOn with
  | nil => rfl
  | append_singleton l s ih =>
    have hrel : (l.foldl step (start false)).absolute = false := absolute_foldl l (start false)
    rw [List.foldl_append, List.foldl_append]
    exact (foldl_segments_step f hrel s).trans (congrArg (step · s) ih)

theorem ofPath_join_normalize (p q : Path) :
    ofPath (join (normalize p) (normalize q)) = ofPath (join p q) := by
  have habs := isAbsolute_normalize q
  cases hq : isAbsolute q with
  | true =>
    rw [hq] at habs
    rw [join_of_absolute _ habs, join_of_absolute _ hq, ofPath_normalize]
  | false =>
    rw [hq] at habs
    have hform : ofPath q = (Path.segments q).foldl step (start false) := by rw [ofPath, hq]
    rw [ofPath_join habs, ofPath_join hq, ofPath_normalize, segments_normalize, hform]
    exact foldl_segments_foldl (ofPath p) (Path.segments q)

end NormalForm

/-- Normal forms may be joined in the stead of what they are normal forms of. -/
theorem normalize_join_normalize (p q : Path) :
    normalize (join (normalize p) (normalize q)) = normalize (join p q) := by
  rw [normalize_eq_toPath, NormalForm.ofPath_join_normalize, ← normalize_eq_toPath]

end DocLaunch.Path
