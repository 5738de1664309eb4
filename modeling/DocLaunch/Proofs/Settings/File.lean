import DocLaunch.Proofs.World.Activity
import DocLaunch.Settings.File

namespace DocLaunch.Settings

open Activity

variable {setting : Setting} {files : FileSystem}

theorem loadFrom_looks (p : Path) : (loadFrom p).Looks :=
  (looks_ask _ p).bind fun _ => (looks_ofExcept _ _).bind fun _ => looks_ofExcept _ _

theorem load_looks (root : ProjectRoot) : (load root).Looks := by
  refine (looks_ask _ _).bind fun found => ?_
  cases found with
  | true => exact loadFrom_looks _
  | false => exact (looks_log _ _ _ _).bind fun _ => looks_pure _

theorem load_answer_of_missing {root : ProjectRoot}
    (h : files.isThere setting.cwd root.settingsPath = false) :
    (load root).answer setting files = .ok {} := by
  simp only [answer, load, run_bind, run_ask, h]
  rfl

theorem load_answer_of_isThere {root : ProjectRoot}
    (h : files.isThere setting.cwd root.settingsPath = true) :
    (load root).answer setting files = (loadFrom root.settingsPath).answer setting files := by
  simp only [answer, load, run_bind, run_ask, h]
  rfl

theorem noteMissing_looks (field : String) (p : Path) : (noteMissing field p).Looks := by
  refine (looks_ask _ _).bind fun found => ?_
  cases found with
  | true => exact looks_pure ()
  | false => exact looks_log _ _ _ _

theorem noteMissing_answer (field : String) (p : Path) :
    (noteMissing field p).answer setting files = .ok () := by
  simp only [answer, noteMissing, run_bind, run_ask]
  cases files.isThere setting.cwd p <;> rfl

theorem checkData_looks (root : ProjectRoot) (sourceDir : String) (l : List (String × String)) :
    (checkData root sourceDir l).Looks := by
  induction l with
  | nil => exact looks_pure ()
  | cons entry l ih =>
    exact (looks_ofExcept _ _).bind fun _ => (noteMissing_looks _ _).bind fun _ => ih

theorem validate_looks (root : ProjectRoot) (s : Site) : (validate root s).Looks :=
  (looks_ofExcept _ _).bind fun _ => checkData_looks root _ _

theorem checkData_answer (root : ProjectRoot) (sourceDir : String) (l : List (String × String)) :
    (checkData root sourceDir l).answer setting files =
      (l.forM fun e => Site.checkBelow e.1 e.2).mapError fun f => .validation (.site f) := by
  induction l with
  | nil => rfl
  | cons entry l ih =>
    have hrest := checkData_looks root sourceDir l
    rw [checkData,
      answer_bind (looks_ofExcept _ _) fun _ => (noteMissing_looks _ _).bind fun _ => hrest,
      answer_ofExcept]
    change _ = (Site.checkBelow entry.1 entry.2 >>= fun _ => l.forM _).mapError _
    cases Site.checkBelow entry.1 entry.2 with
    | error f => rfl
    | ok =>
      change (noteMissing _ _ >>= fun _ => _).answer setting files = _
      rw [answer_bind (noteMissing_looks _ _) fun _ => hrest, noteMissing_answer]
      exact ih

theorem validate_answer (root : ProjectRoot) (s : Site) :
    (validate root s).answer setting files = s.check.mapError fun f => .validation (.site f) := by
  rw [validate, answer_bind (looks_ofExcept _ _) fun _ => checkData_looks root _ _,
    answer_ofExcept, Site.check]
  cases s.checkDeclaration with
  | error f => rfl
  | ok => exact checkData_answer root _ _

end DocLaunch.Settings
