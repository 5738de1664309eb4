import DocLaunch.Process.Basic

namespace DocLaunch

/-- The exit code that an ending counts as. -/
def Ending.code? : Ending → Option Nat
  | .exited code => some code
  | .killed signal => some (128 + signal)
  | .other => none

namespace WaitStatus

/-- The words that ended processes give. Above a signal stands whether memory was dumped. -/
inductive Ends : WaitStatus → Ending → Prop where
  | exited {w : WaitStatus} {code : Nat} (hcode : code ≤ 255) (hword : w.word.toNat = 256 * code) :
    Ends w (.exited code)
  | killed {w : WaitStatus} {signal dump : Nat} (hlow : 1 ≤ signal) (hhigh : signal ≤ 126)
    (hdump : dump ≤ 1) (hword : w.word.toNat = signal + 128 * dump) : Ends w (.killed signal)

variable {w : WaitStatus} {e : Ending}

theorem exitCode_le (w : WaitStatus) : w.exitCode ≤ 255 := by
  have hlow : w.word.toNat % 128 < 128 := Nat.mod_lt _ (by decide)
  have hbyte : w.word.toNat / 256 % 256 < 256 := Nat.mod_lt _ (by decide)
  by_cases hexited : w.word.toNat % 128 = 0
  · simp only [exitCode, ending, hexited, if_true]
    exact Nat.le_of_lt_succ hbyte
  · by_cases hstopped : w.word.toNat % 128 = 127
    · simp [exitCode, ending, hstopped]
    · simp only [exitCode, ending, hexited, hstopped, if_false]
      omega

theorem Ends.ending_eq (h : w.Ends e) : w.ending = e := by
  cases h with
  | @exited code hcode hword =>
    have hlow : w.word.toNat % 128 = 0 := by omega
    have hhigh : w.word.toNat / 256 % 256 = code := by omega
    simp [ending, hlow, hhigh]
  | @killed signal dump hlow hhigh hdump hword =>
    have hsignal : w.word.toNat % 128 = signal := by omega
    have hsome : signal ≠ 0 := by omega
    have hended : signal ≠ 127 := by omega
    simp [ending, hsignal, hsome, hended]

theorem Ends.code?_eq (h : w.Ends e) : e.code? = some w.exitCode := by
  rw [exitCode, h.ending_eq]
  cases h <;> rfl

theorem succeeded_iff : w.succeeded = true ↔ w.word.toNat = 0 := by
  rw [succeeded, beq_iff_eq, ← UInt32.toNat_inj]
  rfl

theorem exitCode_of_succeeded (h : w.succeeded = true) : w.exitCode = 0 := by
  simp [exitCode, ending, succeeded_iff.mp h]

theorem Ends.succeeded_iff (h : w.Ends e) : w.succeeded = true ↔ e = .exited 0 := by
  rw [WaitStatus.succeeded_iff]
  cases h with
  | @exited code hcode hword =>
    rw [hword, Ending.exited.injEq]
    omega
  | @killed signal dump hlow hhigh hdump hword =>
    refine ⟨fun h => ?_, nofun⟩
    omega

theorem Ends.exitCode_eq_zero_iff (h : w.Ends e) : w.exitCode = 0 ↔ w.succeeded = true := by
  rw [h.succeeded_iff, exitCode, h.ending_eq]
  cases h with
  | exited => exact ⟨fun hcode => congrArg _ hcode, fun hcode => Ending.exited.inj hcode⟩
  | killed =>
    refine ⟨fun hcode => ?_, nofun⟩
    simp only at hcode
    omega

end WaitStatus
end DocLaunch
