import Mathlib.Data.List.Basic
import Mathlib.Data.List.TakeWhile
import DocLaunch.Text.Basic

namespace DocLaunch.Text

variable {base : Nat} {digits rest : List Char} {n : Nat}

/-- A run of characters ends where what follows does not go on with it. -/
theorem span_append {p : Char → Bool} {cs : List Char} (h : ∀ c ∈ cs, p c)
    (hrest : ∀ c ∈ rest.head?, ¬ p c) :
    (cs ++ rest).takeWhile p = cs ∧ (cs ++ rest).dropWhile p = rest := by
  rw [List.takeWhile_append_of_pos h, List.dropWhile_append_of_pos h]
  cases rest with
  | nil => exact ⟨List.append_nil cs, rfl⟩
  | cons c rest =>
    have hc : ¬ p c := hrest c rfl
    rw [List.takeWhile_cons_of_neg hc, List.dropWhile_cons_of_neg hc, List.append_nil]
    exact ⟨rfl, rfl⟩

theorem readFixed_append (h : digits.all (isDigitOf base)) :
    readFixed base digits.length (digits ++ rest) = some (valueOf base digits, rest) := by
  simp only [readFixed, List.take_left, List.drop_left, h, and_self, if_true]

theorem readFixed_hexadecimal (letter : Char → Char) (hletter : letter ∈ [id, Char.toUpper])
    (h : n < 0x80) :
    readFixed 16 4 ('0' :: '0' :: letter (Nat.digitChar (n / 16)) ::
      letter (Nat.digitChar (n % 16)) :: rest) = some (n, rest) := by
  have hdigits : ∀ letter ∈ [id, Char.toUpper], ∀ n < 0x80,
      let digits := ['0', '0', letter (Nat.digitChar (n / 16)), letter (Nat.digitChar (n % 16))]
      digits.all (isDigitOf 16) = true ∧ valueOf 16 digits = n := by
    decide
  obtain ⟨hall, hvalue⟩ := hdigits letter hletter n h
  exact (readFixed_append hall).trans (congrArg (fun m => some (m, rest)) hvalue)

theorem valueOf_eq_ofDigitChars (h : ∀ c ∈ digits, c.isDigit) :
    valueOf 10 digits = Nat.ofDigitChars 10 digits 0 := by
  refine List.foldl_ext _ _ _ fun m c hc => ?_
  rw [digitValue, if_pos (h c hc)]

theorem isDigit_of_mem_toDigits {c : Char} (h : c ∈ Nat.toDigits 10 n) : c.isDigit :=
  Nat.isDigit_of_mem_toDigits (by decide) (by decide) h

theorem valueOf_toDigits (n : Nat) : valueOf 10 (Nat.toDigits 10 n) = n := by
  rw [valueOf_eq_ofDigitChars fun c => isDigit_of_mem_toDigits]
  exact Nat.ofDigitChars_toDigits (by decide) (by decide)

theorem toDigits_head (n : Nat) :
    n = 0 ∨ ∃ c cs, Nat.toDigits 10 n = c :: cs ∧ c ≠ '0' := by
  induction n using Nat.strongRecOn with
  | ind n ih =>
    rcases Nat.lt_or_ge n 10 with hn | hn
    · have hsmall : ∀ n < 10, n = 0 ∨ Nat.digitChar n ≠ '0' := by decide
      exact (hsmall n hn).imp_right fun hc => ⟨_, [], Nat.toDigits_of_lt_base hn, hc⟩
    · right
      obtain hzero | ⟨c, cs, hdigits, hc⟩ := ih (n / 10) (by omega)
      · omega
      · refine ⟨c, cs ++ [Nat.digitChar (n % 10)], ?_, hc⟩
        rw [Nat.toDigits_of_base_le (by decide) hn, hdigits]
        rfl

end DocLaunch.Text
