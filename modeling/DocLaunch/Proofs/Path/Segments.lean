import Mathlib.Data.List.Basic
import Mathlib.Data.List.Induction
import DocLaunch.Path.Basic

namespace DocLaunch.Path

/-- A name that one can go down by: it stands between slashes and is neither `.` nor `..`. -/
structure IsName (n : String) : Prop where
  ne_empty : n ≠ ""
  no_slash : '/' ∉ n.toList
  ne_stay : n ≠ "."
  ne_parent : n ≠ ".."

def Segment.text : Segment → String
  | .stay => "."
  | .parent => ".."
  | .name n => n

/-- A segment that moves; its name, if it has one, can be read back. -/
def Segment.Moves : Segment → Prop
  | .stay => False
  | .parent => True
  | .name n => IsName n

/-- The path of segments that are written with single slashes. -/
def ofSegments (absolute : Bool) (l : List Segment) : Path :=
  (if absolute then "/" else "") ++ "/".intercalate (l.map Segment.text)

theorem cut_eq_splitOn (cs : List Char) : cut cs = cs.splitOn '/' := by
  induction cs with
  | nil => rfl
  | cons c rest ih =>
    rw [List.splitOn_cons_eq_if_modifyHead, ← ih, cut]
    by_cases hc : c = '/'
    · simp only [hc, ↓reduceIte, beq_self_eq_true]
    · simp only [hc, ↓reduceIte, beq_eq_false_iff_ne.mpr hc, Bool.false_eq_true]
      cases hr : cut rest with
      | nil => exact absurd (ih.symm.trans hr) (List.splitOn_ne_nil _ _)
      | cons piece pieces => rfl

theorem segments_empty : segments "" = [] := by
  decide

theorem segments_append_slash (p q : Path) :
    segments (p ++ "/" ++ q) = segments p ++ segments q := by
  have hl : (p ++ "/" ++ q).toList = p.toList ++ '/' :: q.toList := by
    simp only [String.toList_append, List.append_assoc]
    rfl
  simp only [segments, cut_eq_splitOn, hl, List.splitOn_append_cons_self, List.filterMap_append]

theorem Segment.ofPiece?_text {s : Segment} (hs : s.Moves) : ofPiece? s.text.toList = some s := by
  cases s with
  | stay => exact hs.elim
  | parent => rfl
  | name n =>
    unfold ofPiece?
    split
    · next he => exact absurd (String.toList_eq_nil_iff.mp he) hs.ne_empty
    · next he => exact absurd (String.toList_inj.mp he) hs.ne_stay
    · next he => exact absurd (String.toList_inj.mp he) hs.ne_parent
    · exact congrArg (some ∘ name) String.ofList_toList

theorem Segment.Moves.no_slash {s : Segment} (hs : s.Moves) : '/' ∉ s.text.toList := by
  cases s with
  | stay => exact hs.elim
  | parent => decide
  | name n => exact IsName.no_slash hs

theorem no_slash_of_mem_cut {cs piece : List Char} (h : piece ∈ cut cs) : '/' ∉ piece := by
  induction cs generalizing piece with
  | nil =>
    rw [List.mem_singleton.mp h]
    exact List.not_mem_nil
  | cons c rest ih =>
    unfold cut at h
    split at h
    · obtain rfl | h := List.mem_cons.mp h
      · exact List.not_mem_nil
      · exact ih h
    · next hc =>
      have hne : cut rest ≠ [] := cut_eq_splitOn rest ▸ List.splitOn_ne_nil _ _
      cases hr : cut rest with
      | nil => exact absurd hr hne
      | cons first pieces =>
        rw [hr] at h ih
        obtain rfl | h := List.mem_cons.mp h
        · exact List.not_mem_cons_of_ne_of_not_mem (Ne.symm hc) (ih List.mem_cons_self)
        · exact ih (List.mem_cons_of_mem _ h)

theorem eq_nil_or_getLast?_of_cut {cs : List Char} (h : (cut cs).getLast? = some []) :
    cs = [] ∨ cs.getLast? = some '/' := by
  induction cs with
  | nil => exact .inl rfl
  | cons c cs ih =>
    right
    have hne : cut cs ≠ [] := cut_eq_splitOn cs ▸ List.splitOn_ne_nil _ _
    have hlast (hcs : (cut cs).getLast? = some []) (hc : cs = [] → c = '/') :
        (c :: cs).getLast? = some '/' := by
      rcases ih hcs with rfl | hslash
      · rw [hc rfl]
        rfl
      · rw [List.getLast?_cons, hslash]
        rfl
    unfold cut at h
    split at h
    · next hc =>
      have hsome := List.getLast?_eq_some_getLast hne
      rw [List.getLast?_cons, hsome] at h
      exact hlast (hsome.trans h) fun _ => hc
    · split at h
      · next hnil => exact absurd hnil hne
      · next piece more hcut =>
        cases more with
        | nil => cases h
        | cons q more =>
          refine hlast (by rw [hcut]; exact h) ?_
          rintro rfl
          cases hcut

theorem getLast?_cut_eq_nil_iff {cs : List Char} :
    (cut cs).getLast? = some [] ↔ cs = [] ∨ cs.getLast? = some '/' := by
  refine ⟨eq_nil_or_getLast?_of_cut, ?_⟩
  rintro (rfl | hslash)
  · rfl
  · obtain ⟨front, rfl⟩ := List.getLast?_eq_some_iff.mp hslash
    rw [cut_eq_splitOn, List.splitOn_append_cons_self, List.splitOn_nil, List.getLast?_concat]

theorem moves_of_mem_segments {p : Path} {s : Segment} (h : s ∈ segments p) (hs : s ≠ .stay) :
    s.Moves := by
  obtain ⟨piece, hp, he⟩ := List.mem_filterMap.mp h
  have hslash := no_slash_of_mem_cut hp
  unfold Segment.ofPiece? at he
  split at he
  · cases he
  · exact absurd (Option.some.inj he).symm hs
  · cases he
    trivial
  · next h₀ h₁ h₂ =>
    cases he
    refine ⟨?_, ?_, ?_, ?_⟩
    · exact fun h => h₀ (String.ofList_eq_empty_iff.mp h)
    · rwa [String.toList_ofList]
    · exact fun h => h₁ (String.toList_ofList.symm.trans (congrArg String.toList h))
    · exact fun h => h₂ (String.toList_ofList.symm.trans (congrArg String.toList h))

theorem segments_root_append (p : Path) : segments ("/" ++ p) = segments p := by
  have h := segments_append_slash "" p
  rwa [String.empty_append, segments_empty, List.nil_append] at h

theorem segments_ofSegments (absolute : Bool) {l : List Segment} (hl : ∀ s ∈ l, s.Moves) :
    segments (ofSegments absolute l) = l := by
  have htext : segments ("/".intercalate (l.map Segment.text)) = l := by
    cases l with
    | nil => exact segments_empty
    | cons s l =>
      have hslash : ∀ cs ∈ ((s :: l).map Segment.text).map String.toList, '/' ∉ cs := by
        intro cs hcs
        simp only [List.map_map, List.mem_map, Function.comp_apply] at hcs
        obtain ⟨t, ht, rfl⟩ := hcs
        exact (hl t ht).no_slash
      rw [segments, cut_eq_splitOn, String.toList_intercalate]
      change (List.splitOn '/' (['/'].intercalate _)).filterMap _ = _
      rw [List.splitOn_intercalate '/' hslash (by simp), List.map_map, List.filterMap_map]
      exact (List.filterMap_congr fun t ht => Segment.ofPiece?_text (hl t ht)).trans
        List.filterMap_some
  cases absolute with
  | false => rwa [ofSegments, if_neg Bool.false_ne_true, String.empty_append]
  | true => rwa [ofSegments, if_pos rfl, segments_root_append]

theorem segments_join {p q : Path} (hq : isAbsolute q = false) :
    segments (join p q) = segments p ++ segments q := by
  rw [join, if_neg (by simp [hq])]
  split
  · next h =>
    rcases Bool.or_eq_true_iff.mp h with h | h
    · rw [String.isEmpty_iff.mp h, String.empty_append, segments_empty, List.nil_append]
    · obtain ⟨cs, hcs⟩ := List.getLast?_eq_some_iff.mp (beq_iff_eq.mp h)
      have hp : p = String.ofList cs ++ "/" := by
        rw [← String.toList_inj, String.toList_append, String.toList_ofList, hcs]
        rfl
      have hends : segments p = segments (String.ofList cs) := by
        have h := segments_append_slash (String.ofList cs) ""
        rwa [String.append_empty, segments_empty, List.append_nil, ← hp] at h
      rw [hends, hp, segments_append_slash]
  · exact segments_append_slash p q

theorem exists_join_eq_append (p : Path) {q : Path} (hq : isAbsolute q = false) :
    ∃ rest, join p q = p ++ rest := by
  rw [join, if_neg (by simp [hq])]
  split
  · exact ⟨q, rfl⟩
  · exact ⟨"/" ++ q, String.append_assoc⟩

theorem isAbsolute_join {p q : Path} (hq : isAbsolute q = false) :
    isAbsolute (join p q) = isAbsolute p := by
  rw [join, if_neg (by simp [hq])]
  cases hp : p.toList with
  | nil =>
    rw [String.toList_eq_nil_iff.mp hp]
    simpa [isAbsolute] using hq
  | cons c cs =>
    split <;> simp only [isAbsolute, String.toList_append, hp, List.cons_append, List.head?_cons]

theorem join_of_absolute {q : Path} (p : Path) (hq : isAbsolute q = true) : join p q = q :=
  if_pos hq

theorem Segment.Moves.exists_cons {s : Segment} (hs : s.Moves) :
    ∃ c cs, s.text.toList = c :: cs ∧ c ≠ '/' := by
  have hslash := hs.no_slash
  cases h : s.text.toList with
  | nil =>
    have hp := ofPiece?_text hs
    rw [h] at hp
    cases hp
  | cons c cs =>
    refine ⟨c, cs, rfl, ?_⟩
    rintro rfl
    exact hslash (h ▸ List.mem_cons_self)

theorem Segment.Moves.isAbsolute_text {s : Segment} (hs : s.Moves) : isAbsolute s.text = false := by
  obtain ⟨c, cs, hc, hne⟩ := hs.exists_cons
  simp [isAbsolute, hc, hne]

def body (l : List Segment) : List Char :=
  ['/'].intercalate (l.map fun s => s.text.toList)

theorem toList_ofSegments (absolute : Bool) (l : List Segment) :
    (ofSegments absolute l).toList = (if absolute then ['/'] else []) ++ body l := by
  rw [ofSegments, String.toList_append, String.toList_intercalate, List.map_map]
  cases absolute <;> rfl

theorem body_concat (l : List Segment) (s : Segment) :
    body (l ++ [s]) = (if l = [] then [] else body l ++ ['/']) ++ s.text.toList := by
  induction l with
  | nil => simp [body]
  | cons t l ih =>
    cases l with
    | nil => simp [body]
    | cons u l =>
      simp only [body, List.cons_append, List.map_cons, List.intercalate_cons_cons] at ih ⊢
      simp only [ih, reduceCtorEq, ↓reduceIte, List.append_assoc]

theorem isAbsolute_ofSegments (absolute : Bool) {l : List Segment} (hl : ∀ s ∈ l, s.Moves) :
    isAbsolute (ofSegments absolute l) = absolute := by
  rw [isAbsolute, toList_ofSegments]
  cases absolute with
  | true => rfl
  | false =>
    cases l with
    | nil => rfl
    | cons s l =>
      obtain ⟨c, cs, hc, hne⟩ := (hl s List.mem_cons_self).exists_cons
      cases l <;> simp [body, hc, hne]

theorem endsInSlash_ofSegments (absolute : Bool) (l : List Segment) {s : Segment} (hs : s.Moves) :
    endsInSlash (ofSegments absolute (l ++ [s])) = false := by
  obtain ⟨c, cs, hc, -⟩ := hs.exists_cons
  rw [endsInSlash, toList_ofSegments, body_concat, ← List.append_assoc,
    List.getLast?_append_of_ne_nil _ (by simp [hc])]
  exact beq_eq_false_iff_ne.mpr fun h => hs.no_slash (List.mem_of_getLast? h)

theorem join_ofSegments (absolute : Bool) {l : List Segment} {s : Segment}
    (hl : ∀ t ∈ l, t.Moves) (hs : s.Moves) :
    join (ofSegments absolute l) s.text = ofSegments absolute (l ++ [s]) := by
  rw [← String.toList_inj, toList_ofSegments, body_concat, join,
    if_neg (by simp [hs.isAbsolute_text])]
  obtain rfl | ⟨l, t, rfl⟩ := List.eq_nil_or_concat l
  · cases absolute <;> simp [ofSegments, endsInSlash]
  · have ht : t.Moves := hl t (by simp)
    obtain ⟨c, cs, hc, -⟩ := ht.exists_cons
    have hempty : (ofSegments absolute (l ++ [t])).isEmpty = false := by
      rw [Bool.eq_false_iff]
      intro h
      have hnil := String.toList_eq_nil_iff.mpr (String.isEmpty_iff.mp h)
      simp [toList_ofSegments, body_concat, hc] at hnil
    simp [hempty, endsInSlash_ofSegments absolute l ht, toList_ofSegments]

theorem trimBack_reverse_text {s : Segment} (hs : s.Moves) (absolute : Bool) (rest : List Char) :
    trimBack absolute (s.text.toList.reverse ++ rest) = s.text.toList.reverse ++ rest := by
  have hslash := hs.no_slash
  have hp := Segment.ofPiece?_text hs
  cases hr : s.text.toList.reverse with
  | nil =>
    rw [List.reverse_eq_nil_iff.mp hr] at hp
    cases hp
  | cons c cs =>
    have hmem : ∀ d ∈ c :: cs, d ≠ '/' := by
      rintro d hd rfl
      exact hslash (List.mem_reverse.mp (hr ▸ hd))
    have hdot : c :: cs ≠ ['.'] := by
      intro he
      rw [List.reverse_eq_iff.mp (hr.trans he)] at hp
      cases Option.some.inj hp
      exact hs
    rw [List.cons_append]
    unfold trimBack
    split
    · next he => exact absurd (List.cons.inj he).1 (hmem c List.mem_cons_self)
    · next he =>
      obtain ⟨rfl, hcs⟩ := List.cons.inj he
      cases cs with
      | nil => exact absurd rfl hdot
      | cons d cs => exact absurd (List.cons.inj hcs).1 (hmem d (by simp))
    · next he =>
      obtain ⟨rfl, hcs⟩ := List.cons.inj he
      rw [(List.append_eq_nil_iff.mp hcs).1] at hdot
      exact absurd rfl hdot
    · rfl

theorem trimBack_reverse_body {l : List Segment} (hl : ∀ s ∈ l, s.Moves) (absolute : Bool) :
    trimBack absolute (body l).reverse = (body l).reverse := by
  induction l using List.reverseRecOn with
  | nil => rfl
  | append_singleton l s ih =>
    rw [body_concat, List.reverse_append]
    exact trimBack_reverse_text (hl s (by simp)) _ _

theorem dropPiece_reverse_body {l : List Segment} {s : Segment} (hl : ∀ t ∈ l, t.Moves)
    (hs : s.Moves) (absolute : Bool) :
    dropPiece absolute (body (l ++ [s])).reverse = (body l).reverse := by
  have hpiece : ∀ c ∈ s.text.toList.reverse, (c != '/') = true := by
    intro c hc
    rw [bne_iff_ne]
    rintro rfl
    exact hs.no_slash (List.mem_reverse.mp hc)
  rw [dropPiece, body_concat, List.reverse_append, List.dropWhile_append_of_pos hpiece]
  cases l with
  | nil => rfl
  | cons t l =>
    simp only [reduceCtorEq, ↓reduceIte, List.reverse_append]
    exact trimBack_reverse_body hl absolute

theorem parent?_ofSegments (absolute : Bool) {l : List Segment} {s : Segment}
    (hl : ∀ t ∈ l, t.Moves) (hs : s.Moves) :
    parent? (ofSegments absolute (l ++ [s])) = some (ofSegments absolute l) := by
  have hall : ∀ t ∈ l ++ [s], t.Moves := by
    simpa [or_imp, forall_and] using ⟨hl, hs⟩
  have htrim := trimBack_reverse_body hall absolute
  have hdrop := dropPiece_reverse_body hl hs absolute
  have hne : body (l ++ [s]) ≠ [] := by
    obtain ⟨c, cs, hc, -⟩ := hs.exists_cons
    simp [body_concat, hc]
  have htext := toList_ofSegments absolute (l ++ [s])
  unfold parent?
  cases absolute with
  | true =>
    simp only [↓reduceIte, List.singleton_append] at htext
    simp only [htext, htrim]
    split
    · next h => exact absurd (List.reverse_eq_nil_iff.mp h) hne
    · rw [hdrop, List.reverse_reverse, Option.some.injEq, ← String.toList_inj, toList_ofSegments,
        String.toList_ofList]
      rfl
  | false =>
    have habs := isAbsolute_ofSegments false hall
    rw [isAbsolute, htext] at habs
    simp only [Bool.false_eq_true, ↓reduceIte, List.nil_append] at htext habs
    rw [htext]
    split
    · next h => exact absurd h hne
    · next h => simp [h] at habs
    · rw [htrim, hdrop, List.reverse_reverse, Option.some.injEq, ← String.toList_inj,
        toList_ofSegments, String.toList_ofList]
      rfl

end DocLaunch.Path
