import DocLaunch.Settings.Rules

namespace DocLaunch.Site

theorem sequence_eq_ok {x y : Except SiteFault Unit} :
    (x >>= fun _ => y) = .ok () ↔ x = .ok () ∧ y = .ok () := by
  cases x with
  | error f => exact ⟨(nomatch ·), (nomatch ·.1)⟩
  | ok => exact ⟨fun h => ⟨rfl, h⟩, fun h => h.2⟩

theorem forM_eq_ok {α : Type} {l : List α} {f : α → Except SiteFault Unit} :
    l.forM f = .ok () ↔ ∀ a ∈ l, f a = .ok () := by
  induction l with
  | nil => exact ⟨fun _ _ h => absurd h List.not_mem_nil, fun _ => rfl⟩
  | cons a l ih =>
    change (f a >>= fun _ => l.forM f) = .ok () ↔ _
    rw [sequence_eq_ok, ih, List.forall_mem_cons]

theorem checkBelow_eq_ok {field value : String} :
    checkBelow field value = .ok () ↔
      value ≠ "" ∧ Path.isAbsolute value = false ∧ .parent ∉ Path.segments value := by
  unfold checkBelow
  split
  · next h =>
    refine ⟨(nomatch ·), fun ⟨hne, hrel, _⟩ => ?_⟩
    rcases Bool.or_eq_true_iff.mp h with h | h
    · exact absurd (String.isEmpty_iff.mp h) hne
    · rw [hrel] at h
      exact absurd h Bool.false_ne_true
  · next h =>
    rw [Bool.or_eq_true_iff, not_or, String.isEmpty_iff, Bool.not_eq_true] at h
    split
    · next hup => exact ⟨(nomatch ·), fun hv => absurd (List.contains_iff_mem.mp hup) hv.2.2⟩
    · next hup =>
      exact ⟨fun _ => ⟨h.1, h.2, fun hm => hup (List.contains_iff_mem.mpr hm)⟩, fun _ => rfl⟩

theorem check_eq_ok {s : Site} :
    s.check = .ok () ↔ checkProject s.project = .ok () ∧ checkDocumentId s.documentId = .ok () ∧
      checkExtensions [] s.extensions = .ok () ∧ checkBelow "site.source_dir" s.sourceDir = .ok () ∧
      ∀ e ∈ s.dataPaths, checkBelow e.1 e.2 = .ok () := by
  rw [check, sequence_eq_ok, checkDeclaration, sequence_eq_ok, sequence_eq_ok, sequence_eq_ok,
    forM_eq_ok]
  simp only [and_assoc]

theorem mem_dataPaths {s : Site} {v : String}
    (h : s.substitutionsPath = some v ∨ s.targetNamesPath = some v) :
    ∃ field, (field, v) ∈ s.dataPaths := by
  rcases h with h | h
  · exact ⟨_, List.mem_append_left _ (by rw [h]; exact List.mem_cons_self)⟩
  · exact ⟨_, List.mem_append_right _ (by rw [h]; exact List.mem_cons_self)⟩

end DocLaunch.Site
