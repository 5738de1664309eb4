import DocLaunch.Proofs.Process.Status

namespace DocLaunch.WaitStatus

/-- The word as the signed number that the system gives. -/
def signed (w : WaitStatus) : Int32 :=
  w.word.toInt32

/--
The exit code as it is taken out of the word. For a killed process one more than its signal, as a
signed byte, is at least two.
-/
def signedCode (w : WaitStatus) : Int32 :=
  let low := w.signed &&& 0x7f
  if low = 0 then (w.signed >>> 8) &&& 0xff
  else if 2 ≤ (low + 1).toInt8 then 128 + low
  else 1

theorem toNat_low_bits (x : BitVec 32) : (x &&& 0x7f#32).toNat = x.toNat % 128 := by
  rw [BitVec.toNat_and]
  exact Nat.and_two_pow_sub_one_eq_mod x.toNat 7

/-- The sign only comes into bits that the mask takes away. -/
theorem toNat_second_byte (x : BitVec 32) :
    (x.sshiftRight 8 &&& 0xff#32).toNat = x.toNat / 256 % 256 := by
  have hbits : x.sshiftRight 8 &&& 0xff#32 = x >>> 8 &&& 0xff#32 := by
    apply BitVec.eq_of_getElem_eq
    intro i hi
    rw [BitVec.getElem_and, BitVec.getElem_and, BitVec.getElem_sshiftRight,
      BitVec.getElem_ushiftRight]
    by_cases hlow : i < 8
    · have hin : 8 + i < 32 := by omega
      rw [dif_pos hin, BitVec.getLsbD_eq_getElem hin]
    · have hmask : (0xff#32)[i] = false := by
        change Nat.testBit 255 i = false
        apply Nat.testBit_lt_two_pow
        have hpow : 2 ^ 8 ≤ 2 ^ i := Nat.pow_le_pow_right (by decide) (Nat.not_lt.mp hlow)
        omega
      rw [hmask, Bool.and_false, Bool.and_false]
  rw [hbits, BitVec.toNat_and, BitVec.toNat_ushiftRight, Nat.shiftRight_eq_div_pow]
  exact Nat.and_two_pow_sub_one_eq_mod (x.toNat / 2 ^ 8) 8

theorem eq_ofNat_of_toNat {x : Int32} {n : Nat} (h : x.toBitVec.toNat = n) (hn : n < 0x100000000) :
    x = Int32.ofNat n := by
  apply Int32.toBitVec_inj.mp
  apply BitVec.eq_of_toNat_eq
  have hself : (Int32.ofNat n).toBitVec.toNat = n := Nat.mod_eq_of_lt hn
  rw [h, hself]

theorem signed_low (w : WaitStatus) :
    w.signed &&& 0x7f = Int32.ofNat (w.word.toNat % 128) := by
  have hlow : (w.signed &&& 0x7f).toBitVec.toNat = w.word.toNat % 128 :=
    toNat_low_bits w.word.toBitVec
  apply eq_ofNat_of_toNat hlow
  omega

theorem signed_second (w : WaitStatus) :
    w.signed >>> 8 &&& 0xff = Int32.ofNat (w.word.toNat / 256 % 256) := by
  have hsecond : (w.signed >>> 8 &&& 0xff).toBitVec.toNat = w.word.toNat / 256 % 256 :=
    toNat_second_byte w.word.toBitVec
  apply eq_ofNat_of_toNat hsecond
  omega

section Low

variable {n : Nat}

theorem toInt_ofNat_of_low (h : n < 256) : (Int32.ofNat n).toInt = n :=
  Int32.toInt_ofNat_of_lt (Nat.lt_trans h (by decide))

theorem ofNat_low_eq_zero_iff (h : n < 128) : Int32.ofNat n = 0 ↔ n = 0 := by
  have hn := toInt_ofNat_of_low (n := n) (by omega)
  rw [← Int32.toInt_inj, hn]
  exact Int.natCast_eq_zero

theorem two_le_toInt8_iff (h : n < 128) :
    2 ≤ (Int32.ofNat n + 1).toInt8 ↔ 1 ≤ n ∧ n ≤ 126 := by
  have hn := toInt_ofNat_of_low (n := n) (by omega)
  have hsum : (Int32.ofNat n + 1).toInt = n + 1 := by
    rw [Int32.toInt_add, hn]
    change ((n : Int) + 1).bmod (2 ^ 32) = n + 1
    exact Int.bmod_eq_of_le (by omega) (by omega)
  rw [Int8.le_iff_toInt_le, Int32.toInt_toInt8, hsum]
  change 2 ≤ ((n : Int) + 1).bmod 256 ↔ _
  rw [Int.bmod_def]
  omega

theorem toInt_add_low (h : n < 128) : (128 + Int32.ofNat n).toInt = 128 + n := by
  have hn := toInt_ofNat_of_low (n := n) (by omega)
  rw [Int32.toInt_add, hn]
  change (128 + (n : Int)).bmod (2 ^ 32) = 128 + n
  exact Int.bmod_eq_of_le (by omega) (by omega)

end Low

theorem toInt_signedCode (w : WaitStatus) : w.signedCode.toInt = w.exitCode := by
  have hlow : w.word.toNat % 128 < 128 := Nat.mod_lt _ (by decide)
  have hsecond : w.word.toNat / 256 % 256 < 256 := Nat.mod_lt _ (by decide)
  simp only [signedCode, exitCode, ending, signed_low, signed_second, ofNat_low_eq_zero_iff hlow,
    two_le_toInt8_iff hlow]
  by_cases hexited : w.word.toNat % 128 = 0
  · rw [if_pos hexited, if_pos hexited]
    exact toInt_ofNat_of_low hsecond
  · rw [if_neg hexited, if_neg hexited]
    by_cases hstopped : w.word.toNat % 128 = 127
    · rw [if_pos hstopped, if_neg (by omega)]
      rfl
    · rw [if_neg hstopped, if_pos (by omega)]
      exact toInt_add_low hlow

end DocLaunch.WaitStatus
