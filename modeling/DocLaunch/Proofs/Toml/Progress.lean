import Mathlib.Data.List.TakeWhile
import DocLaunch.Toml.Document

namespace DocLaunch.Toml

open Text

/-- What is left of a text after something was read from its front. -/
structure Behind (rest cs : List Char) : Prop where
  suffix : rest <:+ cs
  length_lt : rest.length < cs.length

namespace Behind

variable {first second third : List Char}

theorem cons (c : Char) (cs : List Char) : Behind cs (c :: cs) :=
  ⟨List.suffix_cons c cs, Nat.lt_succ_self _⟩

/-- Some more may be left out in front of the text, or at the front of what is left. -/
theorem extend (h : Behind first second) (hsuffix : second <:+ third) : Behind first third :=
  ⟨h.suffix.trans hsuffix, h.length_lt.trans_le hsuffix.length_le⟩

theorem shorten (h : Behind second third) (hsuffix : first <:+ second) : Behind first third :=
  ⟨hsuffix.trans h.suffix, hsuffix.length_le.trans_lt h.length_lt⟩

theorem trans (h : Behind first second) (h' : Behind second third) : Behind first third :=
  h.extend h'.suffix

theorem step (h : Behind first second) (c : Char) : Behind first (c :: second) :=
  h.trans (cons c second)

theorem three (a b c : Char) (cs : List Char) : Behind cs (a :: b :: c :: cs) :=
  ((cons c cs).step b).step a

end Behind

variable {cs rest text : List Char} {n : Nat} {c : Char}

theorem skipGap_suffix (cs : List Char) : skipGap cs <:+ cs :=
  List.dropWhile_suffix isGap

theorem behind_readNewline (h : readNewline cs = some rest) : Behind rest cs := by
  unfold readNewline at h
  split at h
  · cases h
    exact .cons _ _
  · cases h
    exact (Behind.cons _ _).step _
  · cases h

theorem suffix_readFixed {base k : Nat} (h : readFixed base n cs = some (k, rest)) :
    rest <:+ cs ∧ rest.length + n = cs.length := by
  unfold readFixed at h
  dsimp only at h
  split at h
  · next hdigits =>
    cases h
    have hlen := hdigits.1
    rw [List.length_take] at hlen
    refine ⟨List.drop_suffix n cs, ?_⟩
    rw [List.length_drop]
    omega
  · cases h

theorem behind_readFixed {base k : Nat} (hn : 0 < n) (h : readFixed base n cs = some (k, rest)) :
    Behind rest cs := by
  obtain ⟨hsuffix, hlen⟩ := suffix_readFixed h
  exact ⟨hsuffix, by omega⟩

section Strings

theorem suffix_readCodePoint (h : readCodePoint n cs = some (c, rest)) : rest <:+ cs := by
  obtain ⟨⟨code, cs'⟩, hfixed, h⟩ := Option.bind_eq_some_iff.mp h
  dsimp only at h
  split at h <;> cases h
  exact (suffix_readFixed hfixed).1

theorem behind_readEscape (h : readEscape cs = some (c, rest)) : Behind rest cs := by
  unfold readEscape at h
  split at h
  case h_8 | h_9 => exact (Behind.cons _ _).shorten (suffix_readCodePoint h)
  case h_10 => cases h
  -- All others are one character.
  all_goals
    cases h
    exact .cons _ _

theorem skipLines_suffix (n : Nat) (cs : List Char) : skipLines n cs <:+ cs := by
  induction n generalizing cs with
  | zero => exact List.suffix_rfl
  | succ n ih =>
    unfold skipLines
    split
    · next hline => exact (ih _).trans (behind_readNewline hline).suffix
    split
    · split
      · exact (ih _).trans (List.suffix_cons _ _)
      · exact List.suffix_rfl
    · exact List.suffix_rfl

theorem behind_readJoin (h : readJoin cs = some rest) : Behind rest cs := by
  obtain ⟨cs', hline, rfl⟩ := Option.map_eq_some_iff.mp h
  exact ((behind_readNewline hline).extend (skipGap_suffix cs)).shorten
    (skipLines_suffix cs'.length cs')

theorem behind_readTripleEnd {quote : Char} (h : readTripleEnd quote cs = some (text, rest)) :
    Behind rest cs := by
  unfold readTripleEnd at h
  split at h
  · split at h
    · split at h
      · split at h
        · cases h
          exact (Behind.three _ _ _ _).shorten ((Behind.cons _ _).step _).suffix
        · cases h
          exact (Behind.three _ _ _ _).shorten (List.suffix_cons _ _)
      · cases h
        exact .three _ _ _ _
    · cases h
  · split at h
    · split at h
      · cases h
        exact (Behind.three _ _ _ _).shorten (List.suffix_cons _ _)
      · cases h
        exact .three _ _ _ _
    · cases h
  · split at h
    · cases h
      exact .three _ _ _ _
    · cases h
  · cases h

theorem consRead_eq_some {r : Option (List Char × List Char)}
    (h : consRead c r = some (text, rest)) : ∃ text', r = some (text', rest) := by
  cases r with
  | none => cases h
  | some p =>
    cases h
    exact ⟨p.1, rfl⟩

theorem behind_readBasic (h : readBasic n cs = some (text, rest)) : Behind rest cs := by
  induction n generalizing cs text with
  | zero => cases h
  | succ n ih =>
    rw [readBasic.eq_def] at h
    dsimp only at h
    split at h
    · cases h
    · cases h
      exact .cons _ _
    · split at h
      · next hescape =>
        obtain ⟨text', h⟩ := consRead_eq_some h
        exact (ih h).trans ((behind_readEscape hescape).step _)
      · cases h
    · split at h
      · obtain ⟨text', h⟩ := consRead_eq_some h
        exact (ih h).step _
      · cases h

theorem behind_readBasicLines (h : readBasicLines n cs = some (text, rest)) : Behind rest cs := by
  induction n generalizing cs text with
  | zero => cases h
  | succ n ih =>
    unfold readBasicLines at h
    split at h
    · next hend =>
      cases h
      exact behind_readTripleEnd hend
    split at h
    · next hline =>
      obtain ⟨text', h⟩ := consRead_eq_some h
      exact (ih h).trans (behind_readNewline hline)
    split at h
    · cases h
    · split at h
      · next hjoin => exact (ih h).trans ((behind_readJoin hjoin).step _)
      · split at h
        · next hescape =>
          obtain ⟨text', h⟩ := consRead_eq_some h
          exact (ih h).trans ((behind_readEscape hescape).step _)
        · cases h
    · split at h
      · obtain ⟨text', h⟩ := consRead_eq_some h
        exact (ih h).step _
      · cases h

theorem behind_readLiteral (h : readLiteral cs = some (text, rest)) : Behind rest cs := by
  induction cs generalizing text with
  | nil => cases h
  | cons c cs ih =>
    rw [readLiteral.eq_def] at h
    split at h
    · cases h
    · next heq =>
      cases heq
      cases h
      exact .cons _ _
    · next heq =>
      cases heq
      split at h
      · obtain ⟨text', h⟩ := consRead_eq_some h
        exact (ih h).step _
      · cases h

theorem behind_readLiteralLines (h : readLiteralLines n cs = some (text, rest)) :
    Behind rest cs := by
  induction n generalizing cs text with
  | zero => cases h
  | succ n ih =>
    unfold readLiteralLines at h
    split at h
    · next hend =>
      cases h
      exact behind_readTripleEnd hend
    split at h
    · next hline =>
      obtain ⟨text', h⟩ := consRead_eq_some h
      exact (ih h).trans (behind_readNewline hline)
    split at h
    · cases h
    · split at h
      · obtain ⟨text', h⟩ := consRead_eq_some h
        exact (ih h).step _
      · cases h

theorem skipFirstNewline_suffix (cs : List Char) : skipFirstNewline cs <:+ cs := by
  rw [skipFirstNewline]
  cases h : readNewline cs with
  | none => exact List.suffix_rfl
  | some rest => exact (behind_readNewline h).suffix

theorem behind_readString (h : readString cs = some (text, rest)) : Behind rest cs := by
  unfold readString at h
  split at h
  · next after =>
    exact (behind_readBasicLines h).extend
      ((skipFirstNewline_suffix after).trans (Behind.three _ _ _ _).suffix)
  · next after =>
    exact (behind_readLiteralLines h).extend
      ((skipFirstNewline_suffix after).trans (Behind.three _ _ _ _).suffix)
  · exact (behind_readBasic h).step _
  · exact (behind_readLiteral h).step _
  · cases h

theorem behind_readKeyPart (h : readKeyPart cs = some (text, rest)) : Behind rest cs := by
  unfold readKeyPart at h
  split at h
  · exact (behind_readBasic h).step _
  · exact (behind_readLiteral h).step _
  · dsimp only at h
    split at h
    · cases h
    · next hpart =>
      cases h
      have hsplit := congrArg List.length (List.takeWhile_append_dropWhile (p := isBare) (l := cs))
      have hpos := List.length_pos_iff.mpr (mt List.isEmpty_iff.mpr hpart)
      rw [List.length_append] at hsplit
      exact ⟨List.dropWhile_suffix isBare, by omega⟩

end Strings

section Numbers

variable {isDigit : Char → Bool} {digits : List Char} {negative : Bool} {i : Int} {x : Binary64}

theorem digitTail_suffix (isDigit : Char → Bool) (cs : List Char) :
    (digitTail isDigit cs).2 <:+ cs := by
  fun_induction digitTail isDigit cs with
  | case1 c rest hc digits after hrest ih =>
    rw [hrest] at ih
    exact ih.trans ((List.suffix_cons _ _).trans (List.suffix_cons _ _))
  | case2 => exact List.suffix_rfl
  | case3 c rest _ hc digits after hrest ih =>
    rw [hrest] at ih
    exact ih.trans (List.suffix_cons _ _)
  | case4 => exact List.suffix_rfl
  | case5 => exact List.suffix_rfl

theorem behind_readDigits (h : readDigits isDigit cs = some (digits, rest)) : Behind rest cs := by
  cases cs with
  | nil => cases h
  | cons c cs =>
    rw [readDigits] at h
    split at h
    · cases h
      exact (Behind.cons _ _).shorten (digitTail_suffix isDigit cs)
    · cases h

theorem behind_readWhole (h : readWhole cs = some (digits, rest)) : Behind rest cs := by
  unfold readWhole at h
  split at h
  · cases h
    exact .cons _ _
  · exact behind_readDigits h

theorem suffix_of_readSign (h : readSign cs = (negative, rest)) : rest <:+ cs := by
  unfold readSign at h
  split at h
  · cases h
    exact List.suffix_cons _ _
  · cases h
    exact List.suffix_cons _ _
  · cases h
    exact List.suffix_rfl

theorem behind_readInBase {base : Nat} (h : readInBase base cs = some (i, rest)) :
    Behind rest cs := by
  obtain ⟨⟨digits, cs'⟩, hdigits, h⟩ := Option.bind_eq_some_iff.mp h
  dsimp only at h
  split at h
  · cases h
    exact behind_readDigits hdigits
  · cases h

theorem behind_readInteger (h : readInteger cs = some (i, rest)) : Behind rest cs := by
  unfold readInteger at h
  split at h
  · exact (behind_readInBase h).trans ((Behind.cons _ _).step _)
  · exact (behind_readInBase h).trans ((Behind.cons _ _).step _)
  · exact (behind_readInBase h).trans ((Behind.cons _ _).step _)
  · cases hsign : readSign cs with
    | mk negative cs₁ =>
    rw [hsign] at h
    obtain ⟨⟨digits, cs₂⟩, hdigits, h⟩ := Option.bind_eq_some_iff.mp h
    obtain ⟨-, h⟩ := Option.ite_none_right_eq_some.mp h
    cases h
    exact (behind_readWhole hdigits).extend (suffix_of_readSign hsign)

theorem behind_readExponent (h : readExponent cs = some (i, rest)) : Behind rest cs := by
  unfold readExponent at h
  split at h
  · next c after =>
    split at h
    · cases hsign : readSign after with
      | mk negative cs₁ =>
      rw [hsign] at h
      obtain ⟨⟨digits, cs₂⟩, hdigits, h⟩ := Option.bind_eq_some_iff.mp h
      cases h
      exact ((behind_readDigits hdigits).extend (suffix_of_readSign hsign)).step _
    · cases h
  · cases h

theorem behind_readFractional (h : readFractional cs = some (digits, i, rest)) :
    Behind rest cs := by
  unfold readFractional at h
  split at h
  · obtain ⟨⟨fraction, cs'⟩, hdigits, h⟩ := Option.bind_eq_some_iff.mp h
    have hfraction := (behind_readDigits hdigits).step '.'
    dsimp only at h
    split at h
    · next hexponent =>
      cases h
      exact (behind_readExponent hexponent).trans hfraction
    · cases h
      exact hfraction
  · obtain ⟨⟨j, cs'⟩, hexponent, h⟩ := Option.map_eq_some_iff.mp h
    cases h
    exact behind_readExponent hexponent

theorem behind_readDecimal (h : readDecimal cs = some (x, rest)) : Behind rest cs := by
  unfold readDecimal at h
  cases hsign : readSign cs with
  | mk negative cs₁ =>
  rw [hsign] at h
  obtain ⟨⟨whole, cs₂⟩, hwhole, h⟩ := Option.bind_eq_some_iff.mp h
  obtain ⟨⟨fraction, exponent, after⟩, hfraction, h⟩ := Option.bind_eq_some_iff.mp h
  obtain ⟨-, h⟩ := Option.ite_none_left_eq_some.mp h
  cases h
  exact (behind_readFractional hfraction).trans
    ((behind_readWhole hwhole).extend (suffix_of_readSign hsign))

theorem behind_readSpecial (h : readSpecial cs = some (x, rest)) : Behind rest cs := by
  unfold readSpecial at h
  split at h
  · next hsign =>
    cases h
    exact (Behind.three _ _ _ _).extend (suffix_of_readSign hsign)
  · next hsign =>
    cases h
    exact (Behind.three _ _ _ _).extend (suffix_of_readSign hsign)
  · cases h

end Numbers

section Moments

variable {low high k : Nat}

theorem behind_readTwo (h : readTwo low high cs = some (k, rest)) : Behind rest cs := by
  obtain ⟨⟨j, cs'⟩, hfixed, h⟩ := Option.bind_eq_some_iff.mp h
  dsimp only at h
  split at h
  · cases h
    exact behind_readFixed Nat.two_pos hfixed
  · cases h

theorem behind_readMark (h : readMark c cs = some rest) : Behind rest cs := by
  cases cs with
  | nil => cases h
  | cons d cs =>
    rw [readMark] at h
    split at h
    · cases h
      exact .cons _ _
    · cases h

theorem behind_readDate {d : Date} (h : Date.read cs = some (d, rest)) : Behind rest cs := by
  obtain ⟨⟨year, cs₁⟩, hyear, h⟩ := Option.bind_eq_some_iff.mp h
  obtain ⟨cs₂, hmark, h⟩ := Option.bind_eq_some_iff.mp h
  obtain ⟨⟨month, cs₃⟩, hmonth, h⟩ := Option.bind_eq_some_iff.mp h
  obtain ⟨cs₄, hmark', h⟩ := Option.bind_eq_some_iff.mp h
  obtain ⟨⟨day, cs₅⟩, hday, h⟩ := Option.bind_eq_some_iff.mp h
  cases h
  have hyear := behind_readFixed (by decide) hyear
  have hmonth := (behind_readTwo hmonth).trans (behind_readMark hmark)
  have hday := (behind_readTwo hday).trans (behind_readMark hmark')
  exact (hday.trans hmonth).trans hyear

theorem suffix_of_readFraction (h : readFraction cs = (k, rest)) : rest <:+ cs := by
  unfold readFraction at h
  split at h
  · dsimp only at h
    split at h
    · cases h
      exact List.suffix_rfl
    · cases h
      exact (List.dropWhile_suffix _).trans (List.suffix_cons _ _)
  · cases h
    exact List.suffix_rfl

theorem behind_readClock {t : Clock} (h : Clock.read cs = some (t, rest)) : Behind rest cs := by
  obtain ⟨⟨hour, cs₁⟩, hhour, h⟩ := Option.bind_eq_some_iff.mp h
  obtain ⟨cs₂, hmark, h⟩ := Option.bind_eq_some_iff.mp h
  obtain ⟨⟨minute, cs₃⟩, hminute, h⟩ := Option.bind_eq_some_iff.mp h
  obtain ⟨cs₄, hmark', h⟩ := Option.bind_eq_some_iff.mp h
  obtain ⟨⟨second, cs₅⟩, hsecond, h⟩ := Option.bind_eq_some_iff.mp h
  have hminute := (behind_readTwo hminute).trans (behind_readMark hmark)
  have hsecond := (behind_readTwo hsecond).trans (behind_readMark hmark')
  have htime := (hsecond.trans hminute).trans (behind_readTwo hhour)
  cases hfraction : readFraction cs₅ with
  | mk nanosecond cs₆ =>
  simp only [hfraction] at h
  cases h
  exact htime.shorten (suffix_of_readFraction hfraction)

theorem behind_readSize (h : Offset.readSize cs = some (k, rest)) : Behind rest cs := by
  obtain ⟨⟨hour, cs₁⟩, hhour, h⟩ := Option.bind_eq_some_iff.mp h
  obtain ⟨cs₂, hmark, h⟩ := Option.bind_eq_some_iff.mp h
  obtain ⟨⟨minute, cs₃⟩, hminute, h⟩ := Option.bind_eq_some_iff.mp h
  cases h
  exact (behind_readTwo hminute).trans ((behind_readMark hmark).trans (behind_readTwo hhour))

theorem behind_readOffset {o : Offset} (h : Offset.read cs = some (o, rest)) : Behind rest cs := by
  unfold Offset.read at h
  split at h
  · cases h
    exact .cons _ _
  · cases h
    exact .cons _ _
  · obtain ⟨⟨k, cs'⟩, hsize, h⟩ := Option.map_eq_some_iff.mp h
    cases h
    exact (behind_readSize hsize).step _
  · obtain ⟨⟨k, cs'⟩, hsize, h⟩ := Option.map_eq_some_iff.mp h
    cases h
    exact (behind_readSize hsize).step _
  · cases h

theorem readAfterDate_suffix (d : Date) (cs : List Char) :
    (Moment.readAfterDate d cs).2 <:+ cs := by
  unfold Moment.readAfterDate
  split
  · exact List.suffix_rfl
  · next c after =>
    split
    · split
      · exact List.suffix_rfl
      · next hclock =>
        have hclock := (behind_readClock hclock).step c
        split
        · exact hclock.suffix
        · next hoffset => exact ((behind_readOffset hoffset).trans hclock).suffix
    · exact List.suffix_rfl

theorem behind_readMoment {m : Moment} (h : Moment.read cs = some (m, rest)) : Behind rest cs := by
  unfold Moment.read at h
  split at h
  · next d after hdate =>
    have hafter := readAfterDate_suffix d after
    rw [Option.some.inj h] at hafter
    exact (behind_readDate hdate).shorten hafter
  · obtain ⟨⟨t, cs'⟩, hclock, h⟩ := Option.map_eq_some_iff.mp h
    cases h
    exact behind_readClock hclock

end Moments

section Lines

variable {s : Scalar} {keys : List Key}

theorem behind_readNumber (h : readNumber cs = some (s, rest)) : Behind rest cs := by
  unfold readNumber at h
  split at h
  · next hmoment =>
    cases h
    exact behind_readMoment hmoment
  split at h
  · next hdecimal =>
    cases h
    exact behind_readDecimal hdecimal
  split at h
  · next hspecial =>
    cases h
    exact behind_readSpecial hspecial
  · obtain ⟨⟨i, cs'⟩, hinteger, h⟩ := Option.map_eq_some_iff.mp h
    cases h
    exact behind_readInteger hinteger

theorem behind_readScalar (h : readScalar cs = some (s, rest)) : Behind rest cs := by
  unfold readScalar at h
  split at h
  · cases h
    exact (Behind.three _ _ _ _).step _
  · cases h
    exact ((Behind.three _ _ _ _).step _).step _
  · split at h
    · next hstring =>
      cases h
      exact behind_readString hstring
    · exact behind_readNumber h

theorem skipFiller_suffix (n : Nat) (cs : List Char) : skipFiller n cs <:+ cs := by
  induction n generalizing cs with
  | zero => exact List.suffix_rfl
  | succ n ih =>
    unfold skipFiller
    split
    · next hline => exact (ih _).trans (behind_readNewline hline).suffix
    split
    · exact ((ih _).trans (List.dropWhile_suffix isPlain)).trans (List.suffix_cons _ _)
    · split
      · exact (ih _).trans (List.suffix_cons _ _)
      · exact List.suffix_rfl
    · exact List.suffix_rfl

theorem finishLine_suffix (h : finishLine cs = some rest) : rest <:+ cs := by
  have hgap := skipGap_suffix cs
  unfold finishLine at h
  dsimp only at h
  generalize skipGap cs = gap at h hgap
  split at h
  · cases h
    exact List.nil_suffix
  · have hnewline := (behind_readNewline h).suffix
    split at hnewline
    · have hcomment := (List.dropWhile_suffix isPlain).trans ((List.suffix_cons _ _).trans hgap)
      exact hnewline.trans hcomment
    · exact hnewline.trans hgap

end Lines

end DocLaunch.Toml
