import DocLaunch.Proofs.Launch.Steps
import DocLaunch.Proofs.Settings.Json

namespace DocLaunch

namespace Builder

variable {b : Builder} {settings : Settings}

theorem siteText_ofSettings (h : ofSettings settings = .ok b) :
    b.siteText = some settings.site.toJsonText :=
  (ofSettings_eq_ok h).2.2

theorem get?_siteVariable {text : String} (hb : b.siteText = some text) (inherited : StringTable)
    (root : ProjectRoot) : (b.environment inherited root).get? siteVariable = some text := by
  simp only [environment, hb]
  exact StringTable.get?_insert_self

/-- A declaration leaves no more NULs in the environment than there are without it. -/
theorem any_hasNul_environment {text : String} (hb : b.siteText = some text)
    (htext : Spawn.hasNul text = false) (inherited : StringTable) (root : ProjectRoot)
    (h : (b.environment inherited root).entries.any fun e => Spawn.hasNul e.1 || Spawn.hasNul e.2) :
    ({ b with siteText := none }.environment inherited root).entries.any fun e =>
      Spawn.hasNul e.1 || Spawn.hasNul e.2 := by
  simp only [environment, hb] at h
  obtain ⟨e, he, hnul⟩ := List.any_eq_true.mp h
  obtain rfl | he := StringTable.mem_insertEntry he
  · have hname : Spawn.hasNul siteVariable = false := by decide
    simp only [hname, htext, Bool.or_self] at hnul
    cases hnul
  · exact List.any_eq_true.mpr ⟨e, he, hnul⟩

theorem holdsNul_of_siteText {text : String} (hb : b.siteText = some text)
    (htext : Spawn.hasNul text = false) (setting : Setting) (root : ProjectRoot)
    (forwarded : List String) (h : (b.spawn setting root forwarded).holdsNul) :
    ({ b with siteText := none }.spawn setting root forwarded).holdsNul := by
  rw [Spawn.holdsNul, Bool.or_eq_true] at h ⊢
  exact h.imp_right (any_hasNul_environment hb htext setting.env root)

end Builder

theorem Site.hasNul_toJsonText (s : Site) : Spawn.hasNul s.toJsonText = false := by
  rw [Spawn.hasNul, ← Bool.not_eq_true, List.contains_iff_mem]
  exact fun hmem => absurd (s.printable_toJsonText _ hmem) (by decide)

end DocLaunch
