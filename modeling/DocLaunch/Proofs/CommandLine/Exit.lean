import DocLaunch.Proofs.CommandLine.Run
import DocLaunch.Proofs.Process.Word

namespace DocLaunch.Program

open Activity

variable {entry : Path} {sync : Option Bool} {forwarded : List String} {setting : Setting}
  {files : FileSystem} {format : LogFormat} {filter : LogFilter} {status : WaitStatus}

theorem outcome_of_unsuccessful {c : Spawn × Child} :
    let r := (runLaunch entry sync forwarded).run setting ⟨files, []⟩
    let o := finished format filter r.1 r.2
    c ∈ r.2.started → c.2.result = .ok status → status.succeeded = false →
      o.code = status.exitCode ∧ o.report = none := by
  intro r o hc hstatus hfailed
  cases hplan : plan entry sync forwarded setting files with
  | error f =>
    have hstarted : r.2.started = [] := (run_of_fault hplan).2
    rw [hstarted] at hc
    cases hc
  | ok p =>
    obtain ⟨hresult, hstarted⟩ := run_of_plan hplan
    have hmem : c ∈ p.children setting files := hstarted ▸ hc
    obtain ⟨f, hcode, hfault⟩ := Plan.result_of_unsuccessful hmem hstatus hfailed
    have hpassed : r.1 = .ok (status.exitCode : Int) := by
      rw [hfault, passedOn, hcode] at hresult
      exact hresult
    unfold o
    rw [hpassed]
    exact ⟨exitByte_of_le status.exitCode_le, rfl⟩

/--
For every word the exit code is what signed arithmetic gives, it fits a byte, and it is not replaced
by one. A word of a process that has ended gives the code of the process, or its signal added to 128,
and zero only for success. A child that fails hands just that code over to the program.
-/
theorem exit_codes_survive (w : WaitStatus) :
    w.signedCode.toInt = w.exitCode ∧ w.exitCode ≤ 255 ∧ exitByte w.exitCode = w.exitCode ∧
      (∀ code ≤ 255, w.word.toNat = 256 * code →
        w.exitCode = code ∧ (w.exitCode = 0 ↔ w.succeeded = true)) ∧
      (∀ signal dump, 1 ≤ signal → signal ≤ 126 → dump ≤ 1 →
        w.word.toNat = signal + 128 * dump →
          w.exitCode = 128 + signal ∧ w.exitCode ≠ 0 ∧ w.succeeded = false) ∧
      ∀ (entry : Path) (sync : Option Bool) (forwarded : List String) (setting : Setting)
        (files : FileSystem) (format : LogFormat) (filter : LogFilter),
        let r := (runLaunch entry sync forwarded).run setting ⟨files, []⟩
        let o := finished format filter r.1 r.2
        ∀ c ∈ r.2.started, c.2.result = .ok w → w.succeeded = false →
          o.code = w.exitCode ∧ o.report = none ∧ ∀ ending, w.Ends ending → o.code ≠ 0 := by
  refine ⟨w.toInt_signedCode, w.exitCode_le, exitByte_of_le w.exitCode_le, ?exited, ?killed,
    ?passed⟩
  case exited =>
    intro code hcode hword
    have hends : w.Ends (.exited code) := .exited hcode hword
    have hsame : some code = some w.exitCode := hends.code?_eq
    exact ⟨(Option.some.inj hsame).symm, hends.exitCode_eq_zero_iff⟩
  case killed =>
    intro signal dump hlow hhigh hdump hword
    have hends : w.Ends (.killed signal) := .killed hlow hhigh hdump hword
    have hsame : some (128 + signal) = some w.exitCode := hends.code?_eq
    have hcode : w.exitCode = 128 + signal := (Option.some.inj hsame).symm
    have hne : w.exitCode ≠ 0 := by omega
    have hfailed : w.succeeded = false :=
      Bool.eq_false_iff.mpr (mt hends.exitCode_eq_zero_iff.mpr hne)
    exact ⟨hcode, hne, hfailed⟩
  case passed =>
    intro entry sync forwarded setting files format filter r o c hc hstatus hfailed
    have hout : o.code = w.exitCode ∧ o.report = none :=
      outcome_of_unsuccessful hc hstatus hfailed
    refine ⟨hout.1, hout.2, ?_⟩
    intro ending hends hzero
    rw [hout.1, hends.exitCode_eq_zero_iff, hfailed] at hzero
    cases hzero

/-- A setting in which whatever is started dumps its memory. -/
def dumping : Setting where
  cwd := []
  env := .empty
  children _ files := ⟨.ok ⟨139⟩, files, "", true⟩

theorem exit_codes_survive_of_dump :
    let r := (runLaunch "/docs/make" (some true) []).run dumping ⟨smallProject, []⟩
    let o := finished .text (.choose none 0) r.1 r.2
    (⟨139⟩ : WaitStatus).exitCode = 128 + 11 ∧ o.code = 139 ∧ o.report = none := by
  intro r o
  have hplan : plan "/docs/make" (some true) [] dumping smallProject = .ok
      ⟨⟨"/docs"⟩, ⟨true, []⟩, {}, ⟨"build", [], .empty, some (Site.toJsonText {})⟩⟩ :=
    plan_eq_ok.mpr ⟨⟨"/docs"⟩, { launcher := { builder := ["build"] } }, _, by rfl, by rfl, by rfl,
      by rfl, by rfl⟩
  have hchild : dumping.child (Submodules.spawn {} .empty ⟨"/docs"⟩) smallProject =
      ⟨.ok ⟨139⟩, smallProject, "", true⟩ := by
    rfl
  have hstarted : (Submodules.spawn {} .empty ⟨"/docs"⟩,
      dumping.child (Submodules.spawn {} .empty ⟨"/docs"⟩) smallProject) ∈ r.2.started := by
    rw [(run_of_plan hplan).2]
    exact Plan.mem_children.mpr (.inl ⟨rfl, rfl⟩)
  obtain ⟨-, -, -, -, hkilled, hpassed⟩ := exit_codes_survive ⟨139⟩
  obtain ⟨hcode, -, hfailed⟩ := hkilled 11 1 (by decide) (by decide) (by decide) (by decide)
  obtain ⟨hout, hreport, -⟩ := hpassed "/docs/make" (some true) [] dumping smallProject .text
    (.choose none 0) _ hstarted (congrArg Child.result hchild) hfailed
  exact ⟨hcode, hout.trans hcode, hreport⟩

end DocLaunch.Program
