import DocLaunch.Proofs.Path.NormalForm

namespace DocLaunch.Path

def pieces (p : Path) : List String :=
  (p.toList.splitOn '/').map String.ofList

/--
One piece onto a stack of pieces. `..` cancels a name on top; where there is none, it is dropped
from an absolute path and kept in a relative one.
-/
def reduceStep (absolute : Bool) (stack : List String) (piece : String) : List String :=
  if piece ≠ ".." then piece :: stack
  else if stack.head?.all (· = "..") then (if absolute then stack else ".." :: stack)
  else stack.tail

/-- What is left of the pieces of a path, apart from the empty ones and `.`. -/
def reduced (p : Path) : List String :=
  (((pieces p).filter fun s => s ≠ "" ∧ s ≠ ".").foldl (reduceStep (isAbsolute p)) []).reverse

/-- A text without detours: each `..` in it stands at the start of a relative path. -/
structure IsNormal (p : Path) : Prop where
  no_stay : "." ∉ pieces p
  no_double_slash : ¬ ['/', '/'] <:+: p.toList
  no_final_slash : endsInSlash p = true → p = "/"
  ups_first : ∃ k names, (pieces p).filter (· ≠ "") = List.replicate k ".." ++ names ∧
    ".." ∉ names ∧ (isAbsolute p = true → k = 0)

theorem Segment.text_of_ofPiece? {piece : List Char} {s : Segment} (h : ofPiece? piece = some s) :
    s.text = String.ofList piece := by
  unfold ofPiece? at h
  split at h
  · cases h
  · cases h
    rfl
  · cases h
    rfl
  · cases h
    rfl

theorem Segment.ofPiece?_eq_none {piece : List Char} (h : ofPiece? piece = none) : piece = [] := by
  unfold ofPiece? at h
  split at h
  · rfl
  all_goals cases h

theorem segments_ne_nil {p : Path} (hne : p ≠ "") (hrel : isAbsolute p = false) :
    segments p ≠ [] := by
  obtain ⟨c, cs, hp⟩ := List.exists_cons_of_ne_nil (mt String.toList_eq_nil_iff.mp hne)
  have hc : c ≠ '/' := by
    rintro rfl
    simp [isAbsolute, hp] at hrel
  rw [segments, hp, cut, if_neg hc]
  intro hnil
  split at hnil
  all_goals
    rw [List.filterMap_eq_nil_iff] at hnil
    exact absurd (Segment.ofPiece?_eq_none (hnil _ List.mem_cons_self)) (List.cons_ne_nil _ _)

theorem filter_pieces (p : Path) :
    (pieces p).filter (· ≠ "") = (segments p).map Segment.text := by
  rw [pieces, segments, cut_eq_splitOn]
  induction p.toList.splitOn '/' with
  | nil => rfl
  | cons piece l ih =>
    rw [List.map_cons, List.filterMap_cons]
    cases h : Segment.ofPiece? piece with
    | none =>
      rw [Segment.ofPiece?_eq_none h]
      exact ih
    | some s =>
      have hne : s.text ≠ "" := by
        rw [Segment.text_of_ofPiece? h]
        intro he
        rw [String.ofList_eq_empty_iff.mp he] at h
        cases h
      rw [← Segment.text_of_ofPiece? h, List.filter_cons_of_pos (by simpa using hne), ih]
      rfl

theorem getLast?_pieces_eq_empty_iff {p : Path} :
    (pieces p).getLast? = some "" ↔ p = "" ∨ endsInSlash p = true := by
  have hlast : (pieces p).getLast? = some "" ↔ (cut p.toList).getLast? = some [] := by
    rw [pieces, List.getLast?_map, cut_eq_splitOn, Option.map_eq_some_iff]
    simp [String.ofList_eq_empty_iff]
  rw [hlast, getLast?_cut_eq_nil_iff, String.toList_eq_nil_iff, endsInSlash, beq_iff_eq]

theorem Segment.text_eq_stay {p : Path} {s : Segment} (h : s ∈ segments p) :
    s.text = "." ↔ s = .stay := by
  constructor
  · intro he
    by_contra hs
    have hm := ofPiece?_text (moves_of_mem_segments h hs)
    rw [he] at hm
    exact hs (Option.some.inj hm).symm
  · rintro rfl
    rfl

theorem filter_pieces_moving (p : Path) :
    (pieces p).filter (fun s => s ≠ "" ∧ s ≠ ".") =
      ((segments p).filter (· ≠ .stay)).map Segment.text := by
  have hboth : (pieces p).filter (fun s => s ≠ "" ∧ s ≠ ".") =
      ((pieces p).filter (· ≠ "")).filter (· ≠ ".") := by
    rw [List.filter_filter]
    exact List.filter_congr fun s _ => by simp [Bool.and_comm]
  rw [hboth, filter_pieces, List.filter_map]
  congr 1
  exact List.filter_congr fun s hs => by simp [Segment.text_eq_stay hs]

namespace NormalForm

/-- The pieces of a form, the last one first. -/
def stack (f : NormalForm) : List String :=
  f.names ++ List.replicate f.ups ".."

theorem stack_eq (f : NormalForm) : f.stack = (f.segments.map Segment.text).reverse := by
  simp [stack, segments, Function.comp_def, Segment.text]

/-- Reducing by a piece does to the stack what the segment does to the form. -/
theorem Sound.reduceStep_stack {f : NormalForm} (hf : f.Sound) {s : Segment} (hs : s.Moves) :
    reduceStep f.absolute f.stack s.text = (f.step s).stack := by
  cases s with
  | stay => exact hs.elim
  | name n => exact if_pos (IsName.ne_parent hs)
  | parent =>
    rw [reduceStep, if_neg (by decide)]
    obtain ⟨absolute, ups, names⟩ := f
    cases names with
    | cons n names =>
      have hn := (hf.isName n List.mem_cons_self).ne_parent
      rw [if_neg (by simpa [stack] using hn)]
      rfl
    | nil =>
      cases ups with
      | zero => cases absolute <;> rfl
      | succ ups =>
        have hrel : absolute = false := by
          rw [Bool.eq_false_iff]
          exact fun h => Nat.succ_ne_zero ups (hf.grounded h)
        subst hrel
        rw [if_pos (by simp [stack, List.replicate_succ])]
        rfl

theorem Sound.foldl_reduceStep {f : NormalForm} (hf : f.Sound) {l : List Segment}
    (hl : ∀ s ∈ l, s ≠ .stay → s.Moves) :
    ((l.filter (· ≠ .stay)).map Segment.text).foldl (reduceStep f.absolute) f.stack =
      (l.foldl step f).stack := by
  induction l generalizing f with
  | nil => rfl
  | cons s l ih =>
    have hrest := fun t ht => hl t (List.mem_cons_of_mem s ht)
    by_cases hs : s = .stay
    · subst hs
      exact ih hf hrest
    · have hm := hl s List.mem_cons_self hs
      rw [List.filter_cons_of_pos (by simpa using hs), List.map_cons, List.foldl_cons,
        hf.reduceStep_stack hm, ← absolute_step f s]
      exact ih (step_sound hf fun _ => hm) hrest

end NormalForm

open NormalForm

theorem reduced_eq (p : Path) : reduced p = (ofPath p).segments.map Segment.text := by
  have h := (start_sound (isAbsolute p)).foldl_reduceStep fun s hs =>
    moves_of_mem_segments (p := p) (s := s) hs
  rw [reduced, filter_pieces_moving]
  exact (congrArg List.reverse (h.trans (stack_eq _))).trans (List.reverse_reverse _)

/-- Normalizing writes what is left after reducing. -/
theorem normalize_eq_reduced (p : Path) :
    normalize p = (if isAbsolute p then "/" else "") ++ "/".intercalate (reduced p) := by
  rw [normalize_eq_toPath, reduced_eq, toPath, ofSegments, absolute_ofPath]

theorem no_double_slash_append {cs rest : List Char} (hcs : '/' ∉ cs)
    (h : ¬ ['/', '/'] <:+: rest) : ¬ ['/', '/'] <:+: cs ++ rest := by
  induction cs with
  | nil => exact h
  | cons c cs ih =>
    have hne : '/' ≠ c := fun he => hcs (he ▸ List.mem_cons_self)
    rw [List.cons_append, List.infix_cons_iff, not_or]
    exact ⟨fun hp => hne (List.cons_prefix_cons.mp hp).1,
      ih fun hm => hcs (List.mem_cons_of_mem c hm)⟩

theorem no_double_slash_body {l : List Segment} (hl : ∀ s ∈ l, s.Moves) :
    ¬ ['/', '/'] <:+: '/' :: body l := by
  induction l with
  | nil => decide
  | cons s l ih =>
    have hs := hl s List.mem_cons_self
    have hrest : ¬ ['/', '/'] <:+: body (s :: l) := by
      cases l with
      | nil =>
        have hnil : ¬ ['/', '/'] <:+: ([] : List Char) := by decide
        simpa [body] using no_double_slash_append hs.no_slash hnil
      | cons t l =>
        rw [body, List.map_cons, List.map_cons, List.intercalate_cons_cons, List.append_assoc]
        exact no_double_slash_append hs.no_slash (ih fun u hu => hl u (List.mem_cons_of_mem s hu))
    obtain ⟨c, cs, hc, hne⟩ := hs.exists_cons
    rw [List.infix_cons_iff, not_or]
    refine ⟨fun hp => ?_, hrest⟩
    have hfirst := (List.cons_prefix_cons.mp hp).2
    have hbody : (body (s :: l)).head? = some c := by
      cases l <;> simp [body, hc]
    obtain ⟨more, hmore⟩ := hfirst
    rw [← hmore] at hbody
    exact hne (Option.some.inj hbody).symm

theorem NormalForm.Sound.isNormal_toPath {f : NormalForm} (hf : f.Sound) : IsNormal f.toPath := by
  have hpieces : (pieces f.toPath).filter (· ≠ "") = f.segments.map Segment.text := by
    rw [filter_pieces, hf.segments_toPath]
  refine ⟨fun hmem => ?_, ?_, fun hslash => ?_, ?_⟩
  · have hstay : "." ∈ f.segments.map Segment.text :=
      hpieces ▸ List.mem_filter.mpr ⟨hmem, by decide⟩
    obtain ⟨s, hs, he⟩ := List.mem_map.mp hstay
    rw [← hf.segments_toPath] at hs
    have hms := hf.moves s (hf.segments_toPath ▸ hs)
    rw [(Segment.text_eq_stay hs).mp he] at hms
    exact hms
  · rw [toPath, toList_ofSegments]
    have hbody := no_double_slash_body hf.moves
    cases f.absolute with
    | true => exact hbody
    | false => exact fun h => hbody (List.infix_cons h)
  · rw [toPath] at hslash ⊢
    obtain hnil | ⟨l, s, hl⟩ := List.eq_nil_or_concat f.segments
    · rw [hnil] at hslash ⊢
      cases h : f.absolute with
      | true => rfl
      | false =>
        rw [h] at hslash
        exact absurd hslash (by decide)
    · have hs : s.Moves := hf.moves s (by simp [hl])
      rw [hl, List.concat_eq_append, endsInSlash_ofSegments _ l hs] at hslash
      exact absurd hslash Bool.false_ne_true
  · refine ⟨f.ups, f.names.reverse, ?_, ?_, ?_⟩
    · rw [hpieces]
      simp [segments, Function.comp_def, Segment.text]
    · exact fun h => (hf.isName _ (List.mem_reverse.mp h)).ne_parent rfl
    · rw [hf.isAbsolute_toPath]
      exact hf.grounded

theorem isNormal_normalize (p : Path) : IsNormal (normalize p) := by
  rw [normalize_eq_toPath]
  exact (ofPath_sound p).isNormal_toPath

theorem head?_of_nil_mem_cut {cs : List Char} (h : [] ∈ cut cs) (htail : [] ∉ (cut cs).tail) :
    cs.head?.all (· = '/') := by
  cases cs with
  | nil => rfl
  | cons c cs =>
    unfold cut at h htail
    split at h
    · next hc => simpa using hc
    · next hc =>
      rw [if_neg hc] at htail
      split at h
      · simp at h
      · next hr =>
        rw [hr] at htail
        exact absurd ((List.mem_cons.mp h).resolve_left (List.cons_ne_nil _ _).symm) htail

/-- Only before a slash at the start stands an empty piece, if no slash follows another. -/
theorem nil_not_mem_tail_cut {cs : List Char} (hdouble : ¬ ['/', '/'] <:+: cs)
    (hlast : cs.getLast? ≠ some '/') : [] ∉ (cut cs).tail := by
  induction cs with
  | nil => decide
  | cons c cs ih =>
    have hih : [] ∉ (cut cs).tail := by
      apply ih fun h => hdouble (List.infix_cons h)
      cases cs with
      | nil => simp
      | cons d cs => simpa using hlast
    unfold cut
    split
    · next hc =>
      subst hc
      intro hmem
      have hhead := head?_of_nil_mem_cut hmem hih
      cases cs with
      | nil => exact hlast rfl
      | cons d cs =>
        have hd : d = '/' := by simpa using hhead
        exact hdouble ⟨[], cs, by simp [hd]⟩
    · split
      · simp
      · next hr =>
        rw [hr] at hih
        exact hih

theorem map_text_filterMap {l : List (List Char)} (h : [] ∉ l) :
    (l.filterMap Segment.ofPiece?).map (fun s => s.text.toList) = l := by
  induction l with
  | nil => rfl
  | cons piece l ih =>
    have htail := ih fun hm => h (List.mem_cons_of_mem piece hm)
    cases hp : Segment.ofPiece? piece with
    | none => exact absurd (Segment.ofPiece?_eq_none hp ▸ List.mem_cons_self) h
    | some s =>
      rw [List.filterMap_cons_some hp, List.map_cons, htail, Segment.text_of_ofPiece? hp,
        String.toList_ofList]

theorem body_filterMap_cut {cs : List Char} (h : [] ∉ cut cs) :
    body ((cut cs).filterMap Segment.ofPiece?) = cs := by
  rw [body, map_text_filterMap h, cut_eq_splitOn, List.intercalate_splitOn]

theorem IsNormal.eq_ofSegments {p : Path} (hp : IsNormal p) :
    p = ofSegments (isAbsolute p) (segments p) := by
  by_cases hroot : p = "/"
  · subst hroot
    decide
  have hlast : p.toList.getLast? ≠ some '/' := fun h => hroot (hp.no_final_slash (beq_iff_eq.mpr h))
  have htail := nil_not_mem_tail_cut hp.no_double_slash hlast
  rw [← String.toList_inj, toList_ofSegments, segments, isAbsolute]
  cases hcs : p.toList with
  | nil => decide
  | cons c cs =>
    rw [hcs] at htail
    by_cases hc : c = '/'
    · subst hc
      have hcut : cut ('/' :: cs) = [] :: cut cs := by rw [cut, if_pos rfl]
      rw [hcut] at htail ⊢
      rw [List.filterMap_cons_none rfl, body_filterMap_cut htail]
      rfl
    · have hmem : [] ∉ cut (c :: cs) :=
        fun hmem => hc (by simpa using head?_of_nil_mem_cut hmem htail)
      simp [hc, body_filterMap_cut hmem]

theorem Segment.Moves.eq_parent {s : Segment} (hs : s.Moves) (h : s.text = "..") : s = .parent := by
  have hp := ofPiece?_text hs
  rw [h] at hp
  exact (Option.some.inj hp).symm

theorem parent_mem_segments_iff {p : Path} : .parent ∈ segments p ↔ ".." ∈ pieces p := by
  have hmem : ".." ∈ pieces p ↔ ".." ∈ (pieces p).filter (· ≠ "") := by
    rw [List.mem_filter]
    exact (and_iff_left (by decide)).symm
  rw [hmem, filter_pieces, List.mem_map]
  constructor
  · intro h
    exact ⟨.parent, h, rfl⟩
  · rintro ⟨s, hs, htext⟩
    have hstay : s ≠ .stay := by
      rintro rfl
      exact absurd htext (by decide)
    exact (moves_of_mem_segments hs hstay).eq_parent htext ▸ hs

theorem Segment.Moves.eq_name {s : Segment} (hs : s.Moves) (h : s.text ≠ "..") :
    s = .name s.text := by
  cases s with
  | stay => exact hs.elim
  | parent => exact absurd rfl h
  | name n => rfl

theorem IsNormal.segments_eq {p : Path} (hp : IsNormal p) :
    ∃ (k : Nat) (names : List String),
      segments p = List.replicate k .parent ++ names.map .name ∧ (isAbsolute p = true → k = 0) := by
  obtain ⟨k, names, hpieces, hnames, habs⟩ := hp.ups_first
  rw [filter_pieces, List.map_eq_append_iff] at hpieces
  obtain ⟨l, m, hsplit, hl, hm⟩ := hpieces
  have hmoves : ∀ s ∈ segments p, s.Moves := by
    intro s hs
    refine moves_of_mem_segments hs ?_
    rintro rfl
    have hmem : "." ∈ (pieces p).filter (· ≠ "") := by
      rw [filter_pieces]
      exact List.mem_map_of_mem (f := Segment.text) hs
    exact hp.no_stay (List.mem_of_mem_filter hmem)
  refine ⟨k, names, ?_, habs⟩
  have hups : l = List.replicate k .parent := by
    refine List.eq_replicate_iff.mpr ⟨?_, fun s hs => ?_⟩
    · rw [← List.length_map (f := Segment.text), hl, List.length_replicate]
    · have htext : s.text ∈ List.replicate k ".." := hl ▸ List.mem_map_of_mem hs
      exact (hmoves s (by simp [hsplit, hs])).eq_parent (List.eq_of_mem_replicate htext)
  have hdown : m = names.map .name := by
    rw [← hm, List.map_map]
    refine (List.map_id m).symm.trans (List.map_congr_left fun s hs => ?_)
    have htext : s.text ∈ names := hm ▸ List.mem_map_of_mem hs
    exact (hmoves s (by simp [hsplit, hs])).eq_name fun he => hnames (he ▸ htext)
  rw [hsplit, hups, hdown]

theorem IsNormal.normalize_eq {p : Path} (hp : IsNormal p) : normalize p = p := by
  obtain ⟨k, names, hsegs, habs⟩ := hp.segments_eq
  have hform : ofPath p = ⟨isAbsolute p, k, names.reverse⟩ := by
    rw [ofPath, hsegs, List.foldl_append, foldl_parents habs, foldl_names]
    simp
  rw [normalize_eq_toPath, hform, toPath]
  refine Eq.trans ?_ hp.eq_ofSegments.symm
  rw [hsegs, NormalForm.segments, List.reverse_reverse]

theorem normalize_eq_self_iff {p : Path} : normalize p = p ↔ IsNormal p :=
  ⟨fun h => h ▸ isNormal_normalize p, IsNormal.normalize_eq⟩

/--
Normalizing computes the one text in normal form that starts at the same place as the path and has
the same pieces left after reducing.
-/
theorem normalize_unique_normal_form (p : Path) :
    normalize p = (if isAbsolute p then "/" else "") ++ "/".intercalate (reduced p) ∧
      IsNormal (normalize p) ∧ isAbsolute (normalize p) = isAbsolute p ∧
      normalize (normalize p) = normalize p ∧
      ∀ q, IsNormal q → isAbsolute q = isAbsolute p → reduced q = reduced p →
        q = normalize p := by
  refine ⟨normalize_eq_reduced p, isNormal_normalize p, isAbsolute_normalize p,
    normalize_normalize p, fun q hq habs hred => ?_⟩
  rw [← hq.normalize_eq, normalize_eq_reduced q, normalize_eq_reduced p, habs, hred]

example : normalize "a/../../b//.c/." = "../b/.c" := by decide

end DocLaunch.Path
