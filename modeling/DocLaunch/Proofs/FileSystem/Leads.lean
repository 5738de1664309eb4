import DocLaunch.Proofs.FileSystem.Lexical
import DocLaunch.Proofs.Path.Ancestors

namespace DocLaunch.FileSystem

open DocLaunch.Path

def Node.IsLink : Node → Prop
  | .link _ => True
  | .directory | .file .. => False

/-- Steps that lead to a target if at most so many links are followed. -/
inductive Leads (fs : FileSystem) (last : LastLink) :
    Nat → Place → List Segment → Bool → Target → Prop where
  | here {links : Nat} (place : Place) (slash : Bool) :
    Leads fs last links place [] slash ⟨place, fs.node? place, slash⟩
  | stay {links : Nat} {here : Place} {rest : List Segment} {slash : Bool} {t : Target}
    (hdir : fs.node? here = some .directory) (h : Leads fs last links here rest slash t) :
    Leads fs last links here (.stay :: rest) slash t
  | parent {links : Nat} {here : Place} {rest : List Segment} {slash : Bool} {t : Target}
    (hdir : fs.node? here = some .directory) (h : Leads fs last links here.tail rest slash t) :
    Leads fs last links here (.parent :: rest) slash t
  | missing {links : Nat} {here : Place} {n : String} {slash : Bool}
    (hdir : fs.node? here = some .directory) (hsize : n.utf8ByteSize ≤ maxName)
    (hnode : fs.node? (n :: here) = none) :
    Leads fs last links here [.name n] slash ⟨n :: here, none, slash⟩
  | down {links : Nat} {here : Place} {n : String} {rest : List Segment} {slash : Bool}
    {t : Target} {node : Node} (hdir : fs.node? here = some .directory)
    (hsize : n.utf8ByteSize ≤ maxName) (hnode : fs.node? (n :: here) = some node)
    (hlink : ¬ Node.IsLink node) (h : Leads fs last links (n :: here) rest slash t) :
    Leads fs last links here (.name n :: rest) slash t
  | lastLink {links : Nat} {here : Place} {n : String} {slash : Bool} {target : Path}
    (hdir : fs.node? here = some .directory) (hsize : n.utf8ByteSize ≤ maxName)
    (hnode : fs.node? (n :: here) = some (.link target)) (hstop : last.follows slash = false) :
    Leads fs last links here [.name n] slash ⟨n :: here, some (.link target), slash⟩
  | jump {links : Nat} {here : Place} {n : String} {rest : List Segment} {slash : Bool}
    {t : Target} {target : Path} (hdir : fs.node? here = some .directory)
    (hsize : n.utf8ByteSize ≤ maxName) (hnode : fs.node? (n :: here) = some (.link target))
    (hgo : rest ≠ [] ∨ last.follows slash = true)
    (h : Leads fs last links (if isAbsolute target then [] else here) (segments target ++ rest)
      (slash || (rest.isEmpty && endsInSlash target)) t) :
    Leads fs last (links + 1) here (.name n :: rest) slash t

variable {fs fs' : FileSystem} {last : LastLink} {links : Nat} {here cwd : Place}
  {segs rest : List Segment} {slash : Bool} {t : Target} {p : Path}

section Walking

variable {jump : Place → List Segment → Bool → Except SystemFault Target}

theorem leads_of_walkSteps
    (hjump : ∀ here segs slash t, jump here segs slash = .ok t →
      ∃ l, links = l + 1 ∧ Leads fs last l here segs slash t)
    (h : walkSteps fs last jump here segs slash = .ok t) :
    Leads fs last links here segs slash t := by
  induction segs generalizing here with
  | nil =>
    cases h
    exact .here here slash
  | cons step rest ih =>
    have hdir := node?_of_walkSteps h
    rw [walkSteps.eq_def] at h
    simp only [hdir] at h
    cases step with
    | stay => exact .stay hdir (ih h)
    | parent => exact .parent hdir (ih h)
    | name n =>
      simp only at h
      split at h
      · cases h
      · next hsize =>
        have hsize := Nat.not_lt.mp hsize
        split at h
        · next hnode =>
          split at h
          · next hrest =>
            cases h
            rw [List.isEmpty_iff.mp hrest]
            exact .missing hdir hsize hnode
          · cases h
        · next target hnode =>
          split at h
          · next hstop =>
            rw [Bool.and_eq_true, Bool.not_eq_true'] at hstop
            cases h
            rw [List.isEmpty_iff.mp hstop.1]
            exact .lastLink hdir hsize hnode hstop.2
          · next hgo =>
            obtain ⟨l, rfl, h⟩ := hjump _ _ _ _ h
            refine .jump hdir hsize hnode ?_ h
            by_cases hrest : rest = []
            · right
              simpa [hrest] using hgo
            · exact .inl hrest
        · next node hlink hnode =>
          refine .down hdir hsize hnode ?_ (ih h)
          intro hislink
          cases node with
          | link target => exact hlink target rfl
          | directory | file => exact hislink

theorem walkSteps_of_leads
    (hjump : ∀ l here segs slash t, links = l + 1 → Leads fs last l here segs slash t →
      jump here segs slash = .ok t)
    (h : Leads fs last links here segs slash t) :
    walkSteps fs last jump here segs slash = .ok t := by
  induction h with
  | here place slash => rfl
  | stay hdir _ ih => simpa only [walkSteps, hdir] using ih hjump
  | parent hdir _ ih => simpa only [walkSteps, hdir] using ih hjump
  | missing hdir hsize hnode =>
    simp only [walkSteps, hdir, hnode, if_neg (Nat.not_lt.mpr hsize), List.isEmpty_nil, ↓reduceIte]
  | @down links here n rest slash t node hdir hsize hnode hlink _ ih =>
    have ih := ih hjump
    cases node with
    | link target => exact absurd trivial hlink
    | directory | file =>
      simpa only [walkSteps, hdir, hnode, if_neg (Nat.not_lt.mpr hsize)] using ih
  | lastLink hdir hsize hnode hstop =>
    simp only [walkSteps, hdir, hnode, if_neg (Nat.not_lt.mpr hsize), List.isEmpty_nil, hstop,
      Bool.not_false, Bool.and_self, ↓reduceIte]
  | @jump links here n rest slash t target hdir hsize hnode hgo h _ =>
    have hstop : ¬ (rest.isEmpty && !last.follows slash) = true := by
      rw [Bool.and_eq_true, List.isEmpty_iff, Bool.not_eq_true']
      rintro ⟨hrest, hfollows⟩
      rcases hgo with hgo | hgo
      · exact hgo hrest
      · rw [hfollows] at hgo
        cases hgo
    simp only [walkSteps, hdir, hnode, if_neg (Nat.not_lt.mpr hsize), if_neg hstop]
    exact hjump _ _ _ _ _ rfl h

theorem walk_eq_ok_iff_leads :
    walk fs last links here segs slash = .ok t ↔ Leads fs last links here segs slash t := by
  induction links generalizing here segs slash t with
  | zero =>
    exact ⟨leads_of_walkSteps fun _ _ _ _ h => (nomatch h),
      walkSteps_of_leads fun _ _ _ _ _ h => (nomatch h)⟩
  | succ links ih =>
    constructor
    · exact leads_of_walkSteps fun _ _ _ _ h => ⟨links, rfl, ih.mp h⟩
    · apply walkSteps_of_leads
      rintro l here segs slash t ⟨⟩ h
      exact ih.mpr h

end Walking

def startOf (cwd : Place) (p : Path) : Place :=
  if isAbsolute p then [] else cwd

theorem find_eq_ok_iff_leads :
    fs.find last cwd p = .ok t ↔
      Legible p ∧ Leads fs last maxLinks (startOf cwd p) (segments p) (endsInSlash p) t := by
  constructor
  · intro h
    have hp := legible_of_find h
    rw [find_of_legible hp, walk_eq_ok_iff_leads] at h
    exact ⟨hp, h⟩
  · rintro ⟨hp, h⟩
    rw [find_of_legible hp, walk_eq_ok_iff_leads]
    exact h

theorem status_of_absolute (hp : isAbsolute p = true) (cwd' : Place) :
    fs.status cwd p = fs.status cwd' p := by
  simp only [status, find, hp, if_true]

namespace Leads

theorem node?_eq (h : Leads fs last links here segs slash t) : t.node? = fs.node? t.place := by
  induction h with
  | here => rfl
  | stay _ _ ih | parent _ _ ih | down _ _ _ _ _ ih | jump _ _ _ _ _ ih => exact ih
  | missing _ _ hnode => exact hnode.symm
  | lastLink _ _ hnode => exact hnode.symm

theorem unique {t' : Target} (h : Leads fs last links here segs slash t)
    (h' : Leads fs last links here segs slash t') : t = t' :=
  Except.ok.inj ((walk_eq_ok_iff_leads.mpr h).symm.trans (walk_eq_ok_iff_leads.mpr h'))

theorem of_keep (h : Leads fs .keep links here segs slash t)
    (hend : ∀ target, t.node? ≠ some (.link target)) (last : LastLink) :
    Leads fs last links here segs slash t := by
  induction h with
  | here place slash => exact .here place slash
  | stay hdir _ ih => exact .stay hdir (ih hend)
  | parent hdir _ ih => exact .parent hdir (ih hend)
  | missing hdir hsize hnode => exact .missing hdir hsize hnode
  | down hdir hsize hnode hlink _ ih => exact .down hdir hsize hnode hlink (ih hend)
  | lastLink => exact absurd rfl (hend _)
  | jump hdir hsize hnode hgo _ ih =>
    exact .jump hdir hsize hnode (.inl (hgo.resolve_right Bool.false_ne_true)) (ih hend)

/-- A walk that comes to something comes to something too if it stops at a link at the end. -/
theorem exists_keep (h : Leads fs .follow links here segs slash t) (hsome : t.node?.isSome) :
    ∃ t', Leads fs .keep links here segs slash t' ∧ t'.node?.isSome := by
  induction h with
  | here place slash => exact ⟨_, .here place slash, hsome⟩
  | stay hdir _ ih =>
    obtain ⟨t', h, hsome⟩ := ih hsome
    exact ⟨t', .stay hdir h, hsome⟩
  | parent hdir _ ih =>
    obtain ⟨t', h, hsome⟩ := ih hsome
    exact ⟨t', .parent hdir h, hsome⟩
  | missing => cases hsome
  | down hdir hsize hnode hlink _ ih =>
    obtain ⟨t', h, hsome⟩ := ih hsome
    exact ⟨t', .down hdir hsize hnode hlink h, hsome⟩
  | lastLink hdir hsize hnode => exact ⟨_, .lastLink hdir hsize hnode rfl, rfl⟩
  | @jump links here n rest slash t target hdir hsize hnode hgo _ ih =>
    by_cases hrest : rest = []
    · subst hrest
      exact ⟨_, .lastLink hdir hsize hnode rfl, rfl⟩
    · obtain ⟨t', h, hsome⟩ := ih hsome
      exact ⟨t', .jump hdir hsize hnode (.inl hrest) h, hsome⟩

theorem follow_of_followPlain (h : Leads fs .followPlain links here segs slash t)
    (hslash : t.slash = false) : Leads fs .follow links here segs slash t := by
  induction h with
  | here place slash => exact .here place slash
  | stay hdir _ ih => exact .stay hdir (ih hslash)
  | parent hdir _ ih => exact .parent hdir (ih hslash)
  | missing hdir hsize hnode => exact .missing hdir hsize hnode
  | down hdir hsize hnode hlink _ ih => exact .down hdir hsize hnode hlink (ih hslash)
  | @lastLink _ _ _ slash _ _ _ _ hstop =>
    obtain rfl : slash = false := hslash
    cases hstop
  | jump hdir hsize hnode _ _ ih => exact .jump hdir hsize hnode (.inr rfl) (ih hslash)

theorem name_of_not_link {n : String} (links : Nat) (slash : Bool) (last : LastLink)
    (hdir : fs.node? here = some .directory) (hsize : n.utf8ByteSize ≤ maxName)
    (hend : ∀ target, fs.node? (n :: here) ≠ some (.link target)) :
    Leads fs last links here [.name n] slash ⟨n :: here, fs.node? (n :: here), slash⟩ := by
  cases hnode : fs.node? (n :: here) with
  | none => exact .missing hdir hsize hnode
  | some node =>
    have hlink : ¬ Node.IsLink node := by
      intro hlink
      cases node with
      | link target => exact hend target hnode
      | directory | file => exact hlink
    rw [← hnode]
    exact .down hdir hsize hnode hlink (.here _ _)

theorem eq_nil_of_not_directory (h : Leads fs last links here segs slash t)
    (hdir : fs.node? here ≠ some .directory) : segs = [] := by
  cases h with
  | here => rfl
  | stay h | parent h | missing h | down h | lastLink h | jump h => exact absurd h hdir

/--
Only directories and links guide a walk. In a file system that keeps them it comes to the same
place, unless a link stands there now.
-/
theorem of_kept (h : Leads fs last links here segs slash t)
    (hdirs : ∀ place, fs.node? place = some .directory → fs'.node? place = some .directory)
    (hlinks : ∀ place target, fs.node? place = some (.link target) →
      fs'.node? place = some (.link target))
    (hend : ∀ target, fs'.node? t.place = some (.link target) → t.node? = some (.link target)) :
    Leads fs' last links here segs slash ⟨t.place, fs'.node? t.place, t.slash⟩ := by
  induction h with
  | here place slash => exact .here place slash
  | stay hdir _ ih => exact .stay (hdirs _ hdir) (ih hend)
  | parent hdir _ ih => exact .parent (hdirs _ hdir) (ih hend)
  | missing hdir hsize hnode =>
    exact name_of_not_link _ _ _ (hdirs _ hdir) hsize fun target hlink => nomatch hend target hlink
  | @down links here n rest slash t node hdir hsize hnode hlink h ih =>
    cases node with
    | link => exact absurd trivial hlink
    | directory => exact .down (hdirs _ hdir) hsize (hdirs _ hnode) id (ih hend)
    | file content executable =>
      -- Nothing is below a file, so the walk is at its end.
      obtain rfl : rest = [] := h.eq_nil_of_not_directory (by rw [hnode]; exact nofun)
      cases h
      refine name_of_not_link _ _ _ (hdirs _ hdir) hsize fun target hlink => ?_
      have hnode' := hend target hlink
      rw [hnode] at hnode'
      cases hnode'
  | lastLink hdir hsize hnode hstop =>
    have hnode' := hlinks _ _ hnode
    simp only [hnode']
    exact .lastLink (hdirs _ hdir) hsize hnode' hstop
  | jump hdir hsize hnode hgo _ ih =>
    exact .jump (hdirs _ hdir) hsize (hlinks _ _ hnode) hgo (ih hend)

theorem exists_middle {l : List Segment} (h : Leads fs last links here (l ++ rest) slash t)
    (hrest : rest ≠ []) (slash' : Bool) :
    ∃ links' place slash₁ slash₂,
      Leads fs .follow links here l slash' ⟨place, fs.node? place, slash₁⟩ ∧
        Leads fs last links' place rest slash₂ t := by
  generalize hsegs : l ++ rest = segs at h
  induction h generalizing l slash' with
  | here => exact absurd (List.append_eq_nil_iff.mp hsegs).2 hrest
  | stay hdir h ih =>
    rcases List.append_eq_cons_iff.mp hsegs with ⟨rfl, rfl⟩ | ⟨l, rfl, rfl⟩
    · exact ⟨_, _, _, _, .here _ slash', .stay hdir h⟩
    · obtain ⟨links', place, slash₁, slash₂, hl, hr⟩ := ih slash' rfl
      exact ⟨links', place, slash₁, slash₂, .stay hdir hl, hr⟩
  | parent hdir h ih =>
    rcases List.append_eq_cons_iff.mp hsegs with ⟨rfl, rfl⟩ | ⟨l, rfl, rfl⟩
    · exact ⟨_, _, _, _, .here _ slash', .parent hdir h⟩
    · obtain ⟨links', place, slash₁, slash₂, hl, hr⟩ := ih slash' rfl
      exact ⟨links', place, slash₁, slash₂, .parent hdir hl, hr⟩
  | missing hdir hsize hnode =>
    rcases List.append_eq_cons_iff.mp hsegs with ⟨rfl, rfl⟩ | ⟨l, rfl, hnil⟩
    · exact ⟨0, _, _, _, .here _ slash', .missing hdir hsize hnode⟩
    · exact absurd (List.append_eq_nil_iff.mp hnil.symm).2 hrest
  | down hdir hsize hnode hlink h ih =>
    rcases List.append_eq_cons_iff.mp hsegs with ⟨rfl, rfl⟩ | ⟨l, rfl, rfl⟩
    · exact ⟨_, _, _, _, .here _ slash', .down hdir hsize hnode hlink h⟩
    · obtain ⟨links', place, slash₁, slash₂, hl, hr⟩ := ih slash' rfl
      exact ⟨links', place, slash₁, slash₂, .down hdir hsize hnode hlink hl, hr⟩
  | lastLink hdir hsize hnode hstop =>
    rcases List.append_eq_cons_iff.mp hsegs with ⟨rfl, rfl⟩ | ⟨l, rfl, hnil⟩
    · exact ⟨0, _, _, _, .here _ slash', .lastLink hdir hsize hnode hstop⟩
    · exact absurd (List.append_eq_nil_iff.mp hnil.symm).2 hrest
  | @jump _ _ _ _ _ _ target hdir hsize hnode hgo h ih =>
    rcases List.append_eq_cons_iff.mp hsegs with ⟨rfl, rfl⟩ | ⟨l, rfl, rfl⟩
    · exact ⟨_, _, _, _, .here _ slash', .jump hdir hsize hnode hgo h⟩
    · obtain ⟨links', place, slash₁, slash₂, hl, hr⟩ :=
        ih (slash' || (l.isEmpty && endsInSlash target)) (List.append_assoc ..)
      exact ⟨links', place, slash₁, slash₂, .jump hdir hsize hnode (.inr rfl) hl, hr⟩

theorem node?_of_empty {stays : List Segment} {n : String}
    (h : Leads fs last links here (stays ++ .name n :: rest) slash t) (hstays : Stays stays)
    (hempty : fs.node? (n :: here) = none) : t.node? = none := by
  induction stays with
  | nil =>
    cases h with
    | missing => rfl
    | down _ _ hnode => rw [hempty] at hnode; cases hnode
    | lastLink _ _ hnode => rw [hempty] at hnode; cases hnode
    | jump _ _ hnode => rw [hempty] at hnode; cases hnode
  | cons s stays ih =>
    obtain ⟨rfl, hmore⟩ := List.forall_mem_cons.mp hstays
    cases h with
    | stay _ h => exact ih h hmore

end Leads
end DocLaunch.FileSystem
