import DocLaunch.Proofs.FileSystem.Leads

namespace DocLaunch.FileSystem

open DocLaunch.Path

variable {fs fs' fs₁ fs₂ : FileSystem} {cwd place here : Place} {node : Node} {p q : Path}

section Nodes

theorem lookup_filter_of_ne {α β : Type} [BEq α] [LawfulBEq α] {key key' : α} (h : key' ≠ key)
    (entries : List (α × β)) :
    (entries.filter fun e => e.1 != key).lookup key' = entries.lookup key' := by
  induction entries with
  | nil => rfl
  | cons e entries ih =>
    by_cases he : e.1 = key
    · have hne : (key' == e.1) = false := beq_eq_false_iff_ne.mpr (he ▸ h)
      rw [List.filter_cons_of_neg (by simp [he]), ih, List.lookup_cons, hne]
    · rw [List.filter_cons_of_pos (by simp [he]), List.lookup_cons, List.lookup_cons, ih]

theorem node?_set_self (h : place ≠ []) : (fs.set place node).node? place = some node := by
  cases place with
  | nil => exact absurd rfl h
  | cons n place =>
    rw [node?, set, List.lookup_cons, beq_self_eq_true]
    exact List.cons_ne_nil _ _

theorem node?_set_of_ne (h : here ≠ place) : (fs.set place node).node? here = fs.node? here := by
  cases here with
  | nil => rfl
  | cons n here =>
    have hne : ((n :: here) == place) = false := beq_eq_false_iff_ne.mpr h
    rw [node?, set, List.lookup_cons, hne, lookup_filter_of_ne h, node?] <;>
      exact List.cons_ne_nil _ _

theorem ne_top_of_node?_ne (h : fs.node? place ≠ some .directory) : place ≠ [] := by
  rintro rfl
  exact h rfl

end Nodes

section Growth

/-- Nothing is lost, and nothing but directories is new. -/
structure Grows (fs fs' : FileSystem) : Prop where
  kept : ∀ place node, fs.node? place = some node → fs'.node? place = some node
  new : ∀ place node, fs.node? place = none → fs'.node? place = some node → node = .directory

/-- Whatever stands in the tree stands in a directory. -/
def Closed (fs : FileSystem) : Prop :=
  ∀ n here node, fs.node? (n :: here) = some node → fs.node? here = some .directory

theorem Grows.refl (fs : FileSystem) : fs.Grows fs where
  kept _ _ h := h
  new _ _ hnone h := by
    rw [hnone] at h
    cases h

theorem Grows.trans (h : fs.Grows fs₁) (h' : fs₁.Grows fs₂) : fs.Grows fs₂ where
  kept place node hnode := h'.kept place node (h.kept place node hnode)
  new place node hnone hnode := by
    cases hmiddle : fs₁.node? place with
    | none => exact h'.new place node hmiddle hnode
    | some middle =>
      have hlater := h'.kept place middle hmiddle
      rw [hnode] at hlater
      cases hlater
      exact h.new place node hnone hmiddle

theorem grows_set_directory (h : fs.node? place = none) : fs.Grows (fs.set place .directory) := by
  have htop : place ≠ [] := ne_top_of_node?_ne (by rw [h]; exact nofun)
  constructor
  · intro here node hnode
    have hne : here ≠ place := by
      rintro rfl
      rw [h] at hnode
      cases hnode
    rwa [node?_set_of_ne hne]
  · intro here node hnone hnode
    by_cases hhere : here = place
    · rw [hhere, node?_set_self htop] at hnode
      exact (Option.some.inj hnode).symm
    · rw [node?_set_of_ne hhere, hnone] at hnode
      cases hnode

/-- A closed tree stays closed when a node is put into a directory where nothing else is. -/
theorem Closed.set {n : String} (hfs : fs.Closed) (hdir : fs.node? here = some .directory)
    (hnode : fs.node? (n :: here) ≠ some .directory) : (fs.set (n :: here) node).Closed := by
  intro m there child hchild
  have hne : here ≠ n :: here := fun h => absurd (congrArg List.length h) (by simp)
  by_cases hplace : m :: there = n :: here
  · cases hplace
    rwa [node?_set_of_ne hne]
  · rw [node?_set_of_ne hplace] at hchild
    have hthere := hfs m there child hchild
    rw [node?_set_of_ne]
    · exact hthere
    · rintro rfl
      exact hnode hthere

theorem Grows.find (h : fs.Grows fs') {last : LastLink} {t : Target}
    (hfind : fs.find last cwd p = .ok t) (hsome : t.node?.isSome) :
    fs'.find last cwd p = .ok t := by
  obtain ⟨hp, hleads⟩ := find_eq_ok_iff_leads.mp hfind
  obtain ⟨node, hnode⟩ := Option.isSome_iff_exists.mp hsome
  have hsame : fs'.node? t.place = t.node? := by
    rw [hnode]
    exact h.kept _ _ (hleads.node?_eq.symm.trans hnode)
  have hleads' := hleads.of_kept (fun place => h.kept place .directory)
    (fun place target => h.kept place (.link target)) fun target ht => by rwa [← hsame]
  rw [hsame] at hleads'
  exact find_eq_ok_iff_leads.mpr ⟨hp, hleads'⟩

theorem Grows.status (h : fs.Grows fs') (hstatus : fs.status cwd p = .ok (place, node)) :
    fs'.status cwd p = .ok (place, node) := by
  rw [status_eq_ok_iff_find] at hstatus ⊢
  obtain ⟨slash, hfind, hdir⟩ := hstatus
  exact ⟨slash, h.find hfind rfl, hdir⟩

end Growth

theorem isDirectory_iff :
    fs.isDirectory cwd p = true ↔ ∃ place, fs.status cwd p = .ok (place, .directory) := by
  unfold isDirectory
  split
  · next place hstatus => exact ⟨fun _ => ⟨place, hstatus⟩, fun _ => rfl⟩
  · next hother => exact ⟨(nomatch ·), fun ⟨place, h⟩ => absurd h (hother place)⟩

theorem isThere_iff : fs.isThere cwd p = true ↔ ∃ found, fs.status cwd p = .ok found := by
  rw [isThere]
  cases fs.status cwd p with
  | error e => exact ⟨(nomatch ·), (nomatch ·)⟩
  | ok found => exact ⟨fun _ => ⟨found, rfl⟩, fun _ => rfl⟩

theorem isThere_of_isDirectory (h : fs.isDirectory cwd p = true) : fs.isThere cwd p = true := by
  obtain ⟨place, hstatus⟩ := isDirectory_iff.mp h
  exact isThere_iff.mpr ⟨_, hstatus⟩

section MakingOne

theorem makeDirectory_eq_ok_iff :
    fs.makeDirectory cwd p = .ok fs' ↔
      ∃ place slash, fs.find .keep cwd p = .ok ⟨place, none, slash⟩ ∧
        fs' = fs.set place .directory := by
  rw [makeDirectory]
  cases hfind : fs.find .keep cwd p with
  | error e => simp [Bind.bind, Except.bind]
  | ok t =>
    obtain ⟨there, node?, slash⟩ := t
    cases node? with
    | none =>
      constructor
      · rintro ⟨⟩
        exact ⟨there, slash, rfl, rfl⟩
      · rintro ⟨_, _, ⟨⟩, rfl⟩
        rfl
    | some node => simp [Bind.bind, Except.bind]

theorem node?_of_find_keep {slash : Bool} (h : fs.find .keep cwd p = .ok ⟨place, none, slash⟩) :
    fs.node? place = none :=
  (find_eq_ok_iff_leads.mp h).2.node?_eq.symm

theorem makeDirectory_of_isDirectory (h : fs.isDirectory cwd p = true) :
    fs.makeDirectory cwd p = .error .alreadyThere := by
  obtain ⟨place, hstatus⟩ := isDirectory_iff.mp h
  obtain ⟨slash, hfind, -⟩ := status_eq_ok_iff_find.mp hstatus
  obtain ⟨hp, hleads⟩ := find_eq_ok_iff_leads.mp hfind
  obtain ⟨t, hkeep, hsome⟩ := hleads.exists_keep rfl
  obtain ⟨node, hnode⟩ := Option.isSome_iff_exists.mp hsome
  rw [makeDirectory, find_eq_ok_iff_leads.mpr ⟨hp, hkeep⟩]
  simp only [Bind.bind, Except.bind, hnode]

theorem makeDirectory_grows (h : fs.makeDirectory cwd p = .ok fs') : fs.Grows fs' := by
  obtain ⟨place, slash, hfind, rfl⟩ := makeDirectory_eq_ok_iff.mp h
  exact grows_set_directory (node?_of_find_keep hfind)

theorem Closed.tail (hfs : fs.Closed) (hdir : fs.node? here = some .directory) :
    fs.node? here.tail = some .directory := by
  cases here with
  | nil => rfl
  | cons n here => exact hfs n here _ hdir

/-- In a closed tree nothing is missing but names in directories. -/
theorem Leads.exists_container {last : LastLink} {links : Nat} {segs : List Segment}
    {slash : Bool} {t : Target} (hfs : fs.Closed) (h : Leads fs last links here segs slash t)
    (hstart : fs.node? here = some .directory ∨ segs ≠ []) (hnone : t.node? = none) :
    ∃ n above, t.place = n :: above ∧ fs.node? above = some .directory := by
  induction h with
  | here place slash =>
    rw [show fs.node? place = none from hnone] at hstart
    rcases hstart with h | h
    · cases h
    · exact absurd rfl h
  | stay hdir _ ih => exact ih (.inl hdir) hnone
  | parent hdir _ ih => exact ih (.inl (hfs.tail hdir)) hnone
  | @missing links here n slash hdir => exact ⟨n, here, rfl, hdir⟩
  | @down links here n rest slash t node hdir _ hnode hlink h ih =>
    cases node with
    | link => exact absurd trivial hlink
    | directory => exact ih (.inl hnode) hnone
    | file content executable =>
      obtain rfl : rest = [] := h.eq_nil_of_not_directory (by rw [hnode]; exact nofun)
      cases h
      rw [show fs.node? (n :: here) = none from hnone] at hnode
      cases hnode
  | lastLink => cases hnone
  | jump hdir _ _ _ _ ih =>
    refine ih (.inl ?_) hnone
    split
    · rfl
    · exact hdir

theorem exists_container_of_find {last : LastLink} {slash : Bool} (hfs : fs.Closed)
    (h : fs.find last cwd p = .ok ⟨place, none, slash⟩) :
    ∃ n above, place = n :: above ∧ fs.node? above = some .directory := by
  obtain ⟨hp, hleads⟩ := find_eq_ok_iff_leads.mp h
  refine hleads.exists_container hfs ?_ rfl
  rw [startOf]
  cases habs : isAbsolute p with
  | true => exact .inl rfl
  | false => exact .inr (segments_ne_nil hp.ne_empty habs)

theorem Closed.makeDirectory (hfs : fs.Closed) (h : fs.makeDirectory cwd p = .ok fs') :
    fs'.Closed := by
  obtain ⟨place, slash, hfind, rfl⟩ := makeDirectory_eq_ok_iff.mp h
  have hnone := node?_of_find_keep hfind
  obtain ⟨n, above, rfl, hdir⟩ := exists_container_of_find hfs hfind
  exact hfs.set hdir (by rw [hnone]; exact nofun)

theorem ne_empty_of_makeDirectory (h : fs.makeDirectory cwd p = .ok fs') : p ≠ "" := by
  obtain ⟨place, slash, hfind, -⟩ := makeDirectory_eq_ok_iff.mp h
  exact (legible_of_find hfind).ne_empty

theorem ne_empty_of_isDirectory (h : fs.isDirectory cwd p = true) : p ≠ "" := by
  obtain ⟨place, hstatus⟩ := isDirectory_iff.mp h
  obtain ⟨slash, hfind, -⟩ := status_eq_ok_iff_find.mp hstatus
  exact (legible_of_find hfind).ne_empty

theorem ne_of_makeDirectory (hgrows : fs.Grows fs₁) (h : fs₁.makeDirectory cwd p = .ok fs') :
    fs' ≠ fs := by
  rintro rfl
  obtain ⟨place, slash, hfind, hset⟩ := makeDirectory_eq_ok_iff.mp h
  have hnone := node?_of_find_keep hfind
  have htop : place ≠ [] := ne_top_of_node?_ne (by rw [hnone]; exact nofun)
  have hself : fs'.node? place = some .directory := hset ▸ node?_set_self htop
  rw [hgrows.kept _ _ hself] at hnone
  cases hnone

def LeadsToEmpty (fs : FileSystem) (cwd : Place) (p : Path) : Prop :=
  ∃ place slash, fs.find .follow cwd p = .ok ⟨place, some .directory, slash⟩ ∧
    ∀ n, fs.node? (n :: place) = none

theorem leadsToEmpty_of_makeDirectory (hfs : fs.Closed) (h : fs.makeDirectory cwd p = .ok fs') :
    fs'.LeadsToEmpty cwd p := by
  obtain ⟨place, slash, hfind, rfl⟩ := makeDirectory_eq_ok_iff.mp h
  have hnone := node?_of_find_keep hfind
  have hgrows := grows_set_directory hnone
  have htop : place ≠ [] := ne_top_of_node?_ne (by rw [hnone]; exact nofun)
  have hself : (fs.set place .directory).node? place = some .directory := node?_set_self htop
  obtain ⟨hp, hkeep⟩ := find_eq_ok_iff_leads.mp hfind
  have hfollow := (hkeep.of_keep (fun _ => nofun) .follow).of_kept
    (fun place => hgrows.kept place .directory)
    (fun place target => hgrows.kept place (.link target)) fun target ht => by
      rw [hself] at ht
      cases ht
  rw [hself] at hfollow
  refine ⟨place, slash, find_eq_ok_iff_leads.mpr ⟨hp, hfollow⟩, fun n => ?_⟩
  have hne : n :: place ≠ place := fun h => absurd (congrArg List.length h) (by simp)
  rw [node?_set_of_ne hne]
  cases hchild : fs.node? (n :: place) with
  | none => rfl
  | some node =>
    have hdir := hfs n place node hchild
    rw [hnone] at hdir
    cases hdir

theorem LeadsToEmpty.isThere_eq_false {stays rest : List Segment} {n : String}
    (h : fs.LeadsToEmpty cwd q) (habs : isAbsolute q = isAbsolute p) (hstays : Stays stays)
    (hsegs : segments p = segments q ++ stays ++ .name n :: rest) : fs.isThere cwd p = false := by
  rw [Bool.eq_false_iff]
  intro hthere
  obtain ⟨place, slash, hfind, hempty⟩ := h
  obtain ⟨⟨found, node⟩, hstatus⟩ := isThere_iff.mp hthere
  obtain ⟨slash', hfound, -⟩ := status_eq_ok_iff_find.mp hstatus
  have hq := (find_eq_ok_iff_leads.mp hfind).2
  have hp := (find_eq_ok_iff_leads.mp hfound).2
  rw [hsegs, List.append_assoc] at hp
  obtain ⟨links, middle, slash₁, slash₂, hmiddle, hrest⟩ :=
    hp.exists_middle (by simp) (endsInSlash q)
  rw [startOf, ← habs] at hmiddle
  have hplace : middle = place := congrArg Target.place (hmiddle.unique hq)
  cases hrest.node?_of_empty hstays (hplace ▸ hempty n)

end MakingOne

section Making

/-- How a chain of directories comes about. -/
inductive Made (cwd : Place) (fs : FileSystem) : List Path → FileSystem → Prop where
  | nothing : Made cwd fs [] fs
  | empty {above : List Path} : Made cwd fs ("" :: above) fs
  | first {fs' : FileSystem} {p : Path} {above : List Path}
    (h : fs.makeDirectory cwd p = .ok fs') : Made cwd fs (p :: above) fs'
  | there {p : Path} {above : List Path} (h : fs.isDirectory cwd p = true) :
    Made cwd fs (p :: above) fs
  | after {fs₁ fs' : FileSystem} {p : Path} {above : List Path}
    (hmissing : fs.makeDirectory cwd p = .error .notFound) (habove : Made cwd fs above fs₁)
    (h : fs₁.makeDirectory cwd p = .ok fs') : Made cwd fs (p :: above) fs'
  | thereAfter {fs₁ : FileSystem} {p : Path} {above : List Path}
    (hmissing : fs.makeDirectory cwd p = .error .notFound) (habove : Made cwd fs above fs₁)
    (h : fs₁.isDirectory cwd p = true) : Made cwd fs (p :: above) fs₁

variable {chain : List Path}

theorem made_of_makeChain (h : makeChain cwd fs chain = (fs', .ok ())) : Made cwd fs chain fs' := by
  induction chain generalizing fs' with
  | nil =>
    cases h
    exact .nothing
  | cons p above ih =>
    rw [makeChain] at h
    split at h
    · next hempty =>
      cases h
      rw [String.isEmpty_iff.mp hempty]
      exact .empty
    · split at h
      · next fs₁ hmade =>
        cases h
        exact .first hmade
      · next e hmade =>
        split at h
        · next hmissing =>
          subst hmissing
          split at h
          · cases h
          · next fs₁ habove =>
            split at h
            · next hafter =>
              cases h
              exact .after hmade (ih habove) hafter
            · split at h
              · next hdir =>
                cases h
                exact .thereAfter hmade (ih habove) hdir
              · cases h
        · split at h
          · next hdir =>
            cases h
            exact .there hdir
          · cases h

/-- Whether all goes well or not, directories are all that making directories adds. -/
theorem makeChain_grows (cwd : Place) (fs : FileSystem) (chain : List Path) :
    fs.Grows (makeChain cwd fs chain).1 := by
  induction chain with
  | nil => exact .refl fs
  | cons p above ih =>
    rw [makeChain]
    split
    · exact .refl fs
    · split
      · next fs₁ hmade => exact makeDirectory_grows hmade
      · split
        · split
          · next fs₁ e habove =>
            rw [habove] at ih
            exact ih
          · next fs₁ habove =>
            rw [habove] at ih
            split
            · next fs₂ hafter => exact ih.trans (makeDirectory_grows hafter)
            · exact ih
        · exact .refl fs

theorem Made.grows (h : Made cwd fs chain fs') : fs.Grows fs' := by
  induction h with
  | nothing | empty | there => exact .refl _
  | first h => exact makeDirectory_grows h
  | after _ _ h ih => exact ih.trans (makeDirectory_grows h)
  | thereAfter _ _ _ ih => exact ih

theorem Made.closed (h : Made cwd fs chain fs') (hfs : fs.Closed) : fs'.Closed := by
  induction h with
  | nothing | empty | there => exact hfs
  | first h => exact hfs.makeDirectory h
  | after _ _ h ih => exact ih.makeDirectory h
  | thereAfter _ _ _ ih => exact ih

theorem Made.eq_iff (h : Made cwd fs (p :: chain) fs') :
    fs' = fs ↔ p = "" ∨ fs.isDirectory cwd p = true := by
  have hdirectory : fs.makeDirectory cwd p ≠ .error .alreadyThere →
      ¬ fs.isDirectory cwd p = true := fun h hdir => h (makeDirectory_of_isDirectory hdir)
  cases h with
  | empty => exact ⟨fun _ => .inl rfl, fun _ => rfl⟩
  | there h => exact ⟨fun _ => .inr h, fun _ => rfl⟩
  | first h =>
    have hchanged := ne_of_makeDirectory (.refl fs) h
    have hempty : p ≠ "" := ne_empty_of_makeDirectory h
    have hdir := hdirectory (by rw [h]; exact nofun)
    exact ⟨fun he => absurd he hchanged, fun he => (he.elim hempty hdir).elim⟩
  | after hmissing habove h =>
    have hchanged := ne_of_makeDirectory habove.grows h
    have hempty : p ≠ "" := ne_empty_of_makeDirectory h
    have hdir := hdirectory (by rw [hmissing]; exact nofun)
    exact ⟨fun he => absurd he hchanged, fun he => (he.elim hempty hdir).elim⟩
  | thereAfter hmissing habove h =>
    have hempty : p ≠ "" := ne_empty_of_isDirectory h
    have hdir := hdirectory (by rw [hmissing]; exact nofun)
    constructor
    · rintro rfl
      exact .inr h
    · exact fun he => (he.elim hempty hdir).elim

theorem Made.eq_iff_of_ancestors {n : Nat} (h : Made cwd fs (ancestorsWithin n p) fs') :
    fs' = fs ↔ p = "" ∨ fs.isDirectory cwd p = true := by
  cases n with
  | zero => exact h.eq_iff
  | succ n =>
    rw [ancestorsWithin] at h
    split at h
    · exact h.eq_iff
    · exact h.eq_iff

theorem Made.eq_or_leadsToEmpty_of_above (h : Made cwd fs (p :: chain) fs') (hfs : fs.Closed)
    (habove : ∀ fs₁, Made cwd fs chain fs₁ → fs₁.isDirectory cwd p = true → fs₁ = fs) :
    fs' = fs ∨ fs'.LeadsToEmpty cwd p := by
  cases h with
  | empty | there => exact .inl rfl
  | first h => exact .inr (leadsToEmpty_of_makeDirectory hfs h)
  | after _ hmade h => exact .inr (leadsToEmpty_of_makeDirectory (hmade.closed hfs) h)
  | thereAfter _ hmade h => exact .inl (habove _ hmade h)

/--
If directories had to be made for a path that does not go up, it leads to an empty one: each has
been made in the one before it.
-/
theorem Made.eq_or_leadsToEmpty {n : Nat} (hfs : fs.Closed) (hup : .parent ∉ segments p)
    (h : Made cwd fs (ancestorsWithin n p) fs') : fs' = fs ∨ fs'.LeadsToEmpty cwd p := by
  have halone : ∀ (q : Path) (fs₁ : FileSystem), Made cwd fs [] fs₁ →
      fs₁.isDirectory cwd q = true → fs₁ = fs := by
    rintro q fs₁ ⟨⟩ -
    rfl
  induction n generalizing p fs' with
  | zero => exact h.eq_or_leadsToEmpty_of_above hfs (halone p)
  | succ n ih =>
    rw [ancestorsWithin] at h
    split at h
    · exact h.eq_or_leadsToEmpty_of_above hfs (halone p)
    · next q hq =>
      refine h.eq_or_leadsToEmpty_of_above hfs fun fs₁ hmade hdir => ?_
      obtain ⟨habs, rfl | ⟨stays, s, stays', hstays, hs, -, hsegs⟩⟩ := segments_parent? hq
      · rcases ih (by rw [segments_empty]; exact List.not_mem_nil) hmade with h | h
        · exact h
        · obtain ⟨place, slash, hfind, -⟩ := h
          exact absurd rfl (legible_of_find hfind).ne_empty
      · rw [hsegs] at hup
        have hq : .parent ∉ segments q := fun h => hup (by simp [h])
        rcases ih hq hmade with h | h
        · exact h
        · exfalso
          cases s with
          | stay => exact hs rfl
          | parent => exact hup (by simp)
          | name n =>
            have hthere := isThere_of_isDirectory hdir
            rw [h.isThere_eq_false habs hstays hsegs] at hthere
            cases hthere

end Making

section Standing

theorem Legible.of_join (h : Legible (Path.join p q)) (hp : p ≠ "") (hq : isAbsolute q = false) :
    Legible p := by
  obtain ⟨rest, hrest⟩ := exists_join_eq_append p hq
  rw [hrest] at h
  constructor
  · intro hnul
    apply h.no_nul
    rw [String.toList_append]
    exact List.mem_append_left _ hnul
  · exact hp
  · have hsize := h.size
    rw [String.utf8ByteSize_append] at hsize
    exact Nat.le_of_add_right_le hsize

theorem isDirectory_of_isThere_join (hp : p ≠ "") (hq : isAbsolute q = false)
    (hsegs : segments q ≠ []) (h : fs.isThere cwd (Path.join p q) = true) :
    fs.isDirectory cwd p = true := by
  obtain ⟨⟨found, node⟩, hstatus⟩ := isThere_iff.mp h
  obtain ⟨slash, hfind, -⟩ := status_eq_ok_iff_find.mp hstatus
  obtain ⟨hlegible, hleads⟩ := find_eq_ok_iff_leads.mp hfind
  rw [segments_join hq] at hleads
  obtain ⟨links, place, slash₁, slash₂, hmiddle, hrest⟩ :=
    hleads.exists_middle hsegs (endsInSlash p)
  have hdir : fs.node? place = some .directory := by
    by_contra hdir
    exact hsegs (hrest.eq_nil_of_not_directory hdir)
  rw [startOf, isAbsolute_join hq, ← startOf, hdir] at hmiddle
  have hfound := find_eq_ok_iff_leads.mpr ⟨hlegible.of_join hp hq, hmiddle⟩
  exact isDirectory_iff.mpr ⟨place, status_eq_ok_iff_find.mpr ⟨slash₁, hfound, fun _ => rfl⟩⟩

theorem makeChain_of_isDirectory {above : List Path} (h : fs.isDirectory cwd p = true) :
    makeChain cwd fs (p :: above) = (fs, .ok ()) := by
  have hempty : ¬ p.isEmpty = true :=
    fun hempty => ne_empty_of_isDirectory h (String.isEmpty_iff.mp hempty)
  have hother : ¬ SystemFault.alreadyThere = .notFound := nofun
  rw [makeChain, if_neg hempty, makeDirectory_of_isDirectory h]
  simp only [if_neg hother, h, if_true]

theorem makeDirectories_of_isDirectory (h : p = "" ∨ fs.isDirectory cwd p = true) :
    fs.makeDirectories cwd p = (fs, .ok ()) := by
  rcases h with rfl | h
  · rfl
  · rw [makeDirectories, ancestors]
    cases p.length with
    | zero => exact makeChain_of_isDirectory h
    | succ n =>
      rw [ancestorsWithin]
      split <;> exact makeChain_of_isDirectory h

end Standing
end DocLaunch.FileSystem
