import DocLaunch.Proofs.FileSystem.Growth

namespace DocLaunch.FileSystem

variable {fs fs' : FileSystem} {cwd place here : Place} {node : Node} {p q : Path}
  {content : ByteArray} {executable : Bool}

/-- A file has been written where a path leads, in the stead of nothing or of an old content. -/
structure Written (cwd : Place) (p : Path) (content : ByteArray) (fs : FileSystem) (place : Place)
    (executable : Bool) (fs' : FileSystem) : Prop where
  set : fs' = fs.set place (.file content executable)
  plain : fs.node? place = none ∨ ∃ old, fs.node? place = some (.file old executable)
  found : fs.find .follow cwd p = .ok ⟨place, fs.node? place, false⟩

theorem exists_written (h : fs.writeBytes cwd p content = .ok fs') :
    ∃ place executable, Written cwd p content fs place executable fs' := by
  rw [writeBytes] at h
  cases hfind : fs.find .followPlain cwd p with
  | error e =>
    rw [hfind] at h
    cases h
  | ok t =>
    obtain ⟨place, node?, slash⟩ := t
    obtain ⟨hp, hleads⟩ := find_eq_ok_iff_leads.mp hfind
    rw [hfind] at h
    cases slash with
    | true => cases h
    | false =>
      obtain rfl : node? = fs.node? place := hleads.node?_eq
      have hfollow := find_eq_ok_iff_leads.mpr ⟨hp, hleads.follow_of_followPlain rfl⟩
      cases hnode : fs.node? place with
      | none =>
        simp only [Bind.bind, Except.bind, hnode] at h
        cases h
        exact ⟨place, false, rfl, .inl hnode, hfollow⟩
      | some node =>
        simp only [Bind.bind, Except.bind, hnode] at h
        cases node with
        | directory | link => cases h
        | file old executable =>
          cases h
          exact ⟨place, executable, rfl, .inr ⟨old, hnode⟩, hfollow⟩

namespace Written

theorem node?_place (h : Written cwd p content fs place executable fs') :
    fs'.node? place = some (.file content executable) := by
  have hdir : fs.node? place ≠ some .directory := by
    rcases h.plain with hnode | ⟨old, hnode⟩
    · rw [hnode]
      exact nofun
    · rw [hnode]
      exact nofun
  rw [h.set, node?_set_self (ne_top_of_node?_ne hdir)]

theorem node?_of_ne (h : Written cwd p content fs place executable fs') (hne : here ≠ place) :
    fs'.node? here = fs.node? here := by
  rw [h.set, node?_set_of_ne hne]

theorem eq_file (h : Written cwd p content fs place executable fs')
    (hnode : fs.node? place = some node) : ∃ old, node = .file old executable := by
  rcases h.plain with hplain | ⟨old, hplain⟩
  · rw [hnode] at hplain
    cases hplain
  · rw [hnode] at hplain
    exact ⟨old, Option.some.inj hplain⟩

theorem node?_of_not_file (h : Written cwd p content fs place executable fs')
    (hnode : fs.node? here = some node) (hfile : ∀ old e, node ≠ .file old e) :
    fs'.node? here = some node := by
  rw [h.node?_of_ne, hnode]
  rintro rfl
  obtain ⟨old, hold⟩ := h.eq_file hnode
  exact hfile old executable hold

theorem find {last : LastLink} {t : Target} (h : Written cwd p content fs place executable fs')
    (hfind : fs.find last cwd q = .ok t) :
    fs'.find last cwd q = .ok ⟨t.place, fs'.node? t.place, t.slash⟩ := by
  obtain ⟨hq, hleads⟩ := find_eq_ok_iff_leads.mp hfind
  refine find_eq_ok_iff_leads.mpr ⟨hq, hleads.of_kept ?_ ?_ ?_⟩
  · exact fun _ hdir => h.node?_of_not_file hdir fun _ _ => nofun
  · exact fun _ _ hlink => h.node?_of_not_file hlink fun _ _ => nofun
  · intro target htarget
    rw [hleads.node?_eq]
    by_cases hplace : t.place = place
    · rw [hplace, h.node?_place] at htarget
      cases htarget
    · rwa [h.node?_of_ne hplace] at htarget

theorem status (h : Written cwd p content fs place executable fs') :
    fs'.status cwd p = .ok (place, .file content executable) := by
  have hfind := h.find h.found
  rw [h.node?_place] at hfind
  exact status_eq_ok_iff_find.mpr ⟨false, hfind, nofun⟩

theorem exists_status (h : Written cwd p content fs place executable fs')
    (hstatus : fs.status cwd q = .ok (here, node)) :
    ∃ node', fs'.status cwd q = .ok (here, node') := by
  obtain ⟨slash, hfind, hdir⟩ := status_eq_ok_iff_find.mp hstatus
  have hnode : some node = fs.node? here := (find_eq_ok_iff_leads.mp hfind).2.node?_eq
  have hfind' := h.find hfind
  by_cases hhere : here = place
  · subst hhere
    rw [h.node?_place] at hfind'
    refine ⟨_, status_eq_ok_iff_find.mpr ⟨slash, hfind', fun hslash => ?_⟩⟩
    -- No directory stood there, so none was demanded.
    obtain ⟨old, rfl⟩ := h.eq_file hnode.symm
    cases hdir hslash
  · rw [h.node?_of_ne hhere, ← hnode] at hfind'
    exact ⟨node, status_eq_ok_iff_find.mpr ⟨slash, hfind', hdir⟩⟩

theorem node?_of_not_isThere (h : Written cwd p content fs place executable fs')
    (hthere : fs.isThere cwd p = false) : fs.node? place = none := by
  cases hnode : fs.node? place with
  | none => rfl
  | some node =>
    have hfound := h.found
    rw [hnode] at hfound
    have hstatus := status_eq_ok_iff_find.mpr ⟨false, hfound, nofun⟩
    rw [isThere, hstatus] at hthere
    cases hthere

end Written

theorem readBytes_of_status (h : fs.status cwd p = .ok (place, .file content executable)) :
    fs.readBytes cwd p = .ok content := by
  rw [readBytes, h]
  rfl

end DocLaunch.FileSystem
