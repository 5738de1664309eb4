import DocLaunch.Json.Reader
import DocLaunch.Proofs.Text.Digits

namespace DocLaunch.Json

open Text

variable {cs rest : List Char} {n : Nat} {c : Char}

section Strings

theorem writeChar_cases (c : Char) :
    (∃ mark, writeChar c = '\\' :: mark ∧ ∀ rest, readEscape (mark ++ rest) = some (c, rest)) ∨
      (writeChar c = [c] ∧ c ≠ '"' ∧ c ≠ '\\' ∧ ¬ c.toNat < 0x20) := by
  unfold writeChar
  split
  case h_8 hquote hbackslash _ _ _ _ _ =>
    split
    · next hcontrol =>
      refine .inl ⟨_, rfl, fun rest => ?_⟩
      have hdigits : readFixed 16 4 ('0' :: '0' :: Nat.digitChar (c.toNat / 16) ::
          Nat.digitChar (c.toNat % 16) :: rest) = some (c.toNat, rest) :=
        readFixed_hexadecimal id (by simp) (by omega)
      change readUnits ('0' :: '0' :: Nat.digitChar (c.toNat / 16) ::
        Nat.digitChar (c.toNat % 16) :: rest) = some (c, rest)
      simp only [readUnits, hdigits, Option.bind_eq_bind, Option.bind_some]
      have hvalid : c.toNat.isValidChar := c.valid
      rw [if_pos hvalid, Char.ofNat_toNat]
    · next hcontrol => exact .inr ⟨rfl, hquote, hbackslash, hcontrol⟩
  all_goals exact .inl ⟨_, rfl, fun _ => rfl⟩

theorem readText_writeChar (c : Char) (n : Nat) (rest : List Char) :
    readText (n + 1) (writeChar c ++ rest) = consRead c (readText n rest) := by
  obtain ⟨mark, hwrite, hread⟩ | ⟨hwrite, hquote, hbackslash, hcontrol⟩ := writeChar_cases c
  · rw [hwrite]
    simp only [List.cons_append, readText, hread]
  · rw [hwrite, List.singleton_append, readText, if_neg hcontrol]
    · exact hquote
    · exact hbackslash

theorem readText_append (h : cs.length < n) :
    readText n (cs.flatMap writeChar ++ '"' :: rest) = some (cs, rest) := by
  induction cs generalizing n with
  | nil =>
    obtain ⟨n, rfl⟩ := Nat.exists_eq_succ_of_ne_zero (Nat.ne_zero_of_lt h)
    rfl
  | cons c cs ih =>
    obtain ⟨n, rfl⟩ := Nat.exists_eq_succ_of_ne_zero (Nat.ne_zero_of_lt h)
    rw [List.flatMap_cons, List.append_assoc, readText_writeChar,
      ih (Nat.lt_of_succ_lt_succ h)]
    rfl

theorem length_le_flatMap_writeChar (cs : List Char) :
    cs.length ≤ (cs.flatMap writeChar).length := by
  induction cs with
  | nil => exact Nat.le_refl 0
  | cons c cs ih =>
    have hc : 0 < (writeChar c).length := by
      obtain ⟨mark, hwrite, -⟩ | ⟨hwrite, -⟩ := writeChar_cases c <;> rw [hwrite] <;>
        exact Nat.zero_lt_succ _
    rw [List.flatMap_cons, List.length_append, List.length_cons]
    omega

theorem readString_append (s : String) (rest : List Char) :
    readString (writeString s ++ rest) = some (s, rest) := by
  have hread : readText (s.toList.flatMap writeChar ++ '"' :: rest).length
      (s.toList.flatMap writeChar ++ '"' :: rest) = some (s.toList, rest) := by
    refine readText_append ?_
    have hlength := length_le_flatMap_writeChar s.toList
    rw [List.length_append, List.length_cons]
    omega
  rw [writeString, List.cons_append, List.append_assoc, List.singleton_append, readString, hread,
    Option.map_some]
  exact congrArg (fun s => some (s, rest)) String.ofList_toList

end Strings

section Numbers

def Stops : List Char → Prop
  | [] => True
  | c :: _ => ¬ c.isDigit ∧ c ≠ '.' ∧ c ≠ 'e' ∧ c ≠ 'E'

def StopsDigits (cs : List Char) : Prop :=
  ∀ c ∈ cs.head?, ¬ c.isDigit

theorem Stops.stopsDigits (h : Stops rest) : StopsDigits rest := by
  cases rest with
  | nil => exact fun c hc => nomatch hc
  | cons c rest =>
    rintro _ ⟨⟩
    exact h.1

theorem readDigits_append (hne : cs ≠ []) (h : ∀ c ∈ cs, c.isDigit) (hrest : StopsDigits rest) :
    readDigits (cs ++ rest) = some (cs, rest) := by
  obtain ⟨htake, hdrop⟩ := span_append h hrest
  simp only [readDigits, htake, hdrop, List.isEmpty_iff, hne, if_false]

theorem readWhole_append (n : Nat) (hrest : StopsDigits rest) :
    readWhole (Nat.toDigits 10 n ++ rest) = some (Nat.toDigits 10 n, rest) := by
  obtain rfl | ⟨c, cs, hdigits, hc⟩ := toDigits_head n
  · rfl
  · have hread : readDigits (Nat.toDigits 10 n ++ rest) = some (Nat.toDigits 10 n, rest) :=
      readDigits_append Nat.toDigits_ne_nil (fun c => isDigit_of_mem_toDigits) hrest
    rw [hdigits] at hread ⊢
    rw [List.cons_append, readWhole, ← List.cons_append, hread]
    rintro _ ⟨⟩
    exact hc rfl

theorem exists_toDigits_eq_cons (n : Nat) :
    ∃ c cs, Nat.toDigits 10 n = c :: cs ∧ c.isDigit := by
  cases hdigits : Nat.toDigits 10 n with
  | nil => exact absurd hdigits Nat.toDigits_ne_nil
  | cons c cs =>
    exact ⟨c, cs, rfl, isDigit_of_mem_toDigits (n := n) (hdigits ▸ List.mem_cons_self)⟩

theorem ofNat_natAbs (i : Int) :
    (if i < 0 then -(i.natAbs : Int) else i.natAbs) = i := by
  split <;> omega

theorem readExponent_append (e : Int) (hrest : Stops rest) :
    readExponent ((if e = 0 then [] else 'e' :: writeInt e) ++ rest) = some (e, rest) := by
  split
  · next h =>
    subst h
    cases rest with
    | nil => rfl
    | cons c rest =>
      obtain ⟨-, -, hsmall, hcapital⟩ := hrest
      unfold readExponent
      exact if_neg (not_or.mpr ⟨hsmall, hcapital⟩)
  · have hread := readDigits_append (Nat.toDigits_ne_nil (b := 10) (n := e.natAbs))
      (fun c => isDigit_of_mem_toDigits) hrest.stopsDigits
    have hvalue := ofNat_natAbs e
    rw [writeInt]
    split
    · next hneg =>
      change (readDigits (Nat.toDigits 10 e.natAbs ++ rest)).map _ = _
      rw [hread, Option.map_some]
      rw [if_pos hneg] at hvalue
      simp only [valueOf_toDigits, hvalue, if_true]
    · next hpos =>
      obtain ⟨c, cs, hdigits, hc⟩ := exists_toDigits_eq_cons e.natAbs
      rw [if_neg hpos] at hvalue
      have hminus : c ≠ '-' := by rintro rfl; exact absurd hc (by decide)
      have hplus : c ≠ '+' := by rintro rfl; exact absurd hc (by decide)
      have hvalue' := valueOf_toDigits e.natAbs
      rw [hdigits] at hread hvalue'
      rw [List.cons_append] at hread
      simp [readExponent, hdigits, hminus, hplus, hread, hvalue', hvalue]

theorem readFraction_of_stops (hrest : Stops rest) : readFraction rest = some ([], rest) := by
  unfold readFraction
  split
  · exact absurd rfl hrest.2.1
  · rfl

theorem readNumber_append (m e : Int) (hrest : Stops rest) :
    readNumber (writeNumber m e ++ rest) = some (number m e, rest) := by
  have hexponent := readExponent_append e hrest
  rw [writeNumber, List.append_assoc]
  generalize htail : (if e = 0 then [] else 'e' :: writeInt e) ++ rest = tail at hexponent ⊢
  obtain ⟨hstops, hfraction⟩ : StopsDigits tail ∧ readFraction tail = some ([], tail) := by
    rw [← htail]
    split
    · exact ⟨hrest.stopsDigits, readFraction_of_stops hrest⟩
    · exact ⟨fun c hc => Option.some.inj hc ▸ by decide, rfl⟩
  have hwhole := readWhole_append m.natAbs hstops
  have hvalue := ofNat_natAbs m
  obtain ⟨c, cs, hdigits, hc⟩ := exists_toDigits_eq_cons m.natAbs
  have hdigitsValue := valueOf_toDigits m.natAbs
  rw [hdigits] at hwhole hdigitsValue
  rw [List.cons_append] at hwhole
  rw [writeInt, hdigits]
  split
  · next hneg =>
    rw [if_pos hneg] at hvalue
    simp only [List.cons_append, List.nil_append, readNumber, hwhole, hfraction, hexponent,
      Option.bind_eq_bind, Option.bind_some, List.append_nil, hdigitsValue, if_true, hvalue,
      List.length_nil, Int.ofNat_zero, Int.sub_zero]
  · next hpos =>
    rw [if_neg hpos] at hvalue
    have hminus : c ≠ '-' := by rintro rfl; exact absurd hc (by decide)
    simp [readNumber, hminus, hwhole, hfraction, hexponent, hdigitsValue, hvalue]

end Numbers

end DocLaunch.Json
