import DocLaunch.Proofs.Text.Digits
import DocLaunch.Toml.Printer

namespace DocLaunch.Toml

open Text

variable {cs rest : List Char} {c q : Char} {n run : Nat}

theorem isPlain_of_not_isControl (h : ¬ isControl c) (hline : c ≠ '\n') : isPlain c := by
  simp only [isControl, isPlain, Bool.or_eq_true, Bool.and_eq_true, decide_eq_true_iff, bne_iff_ne,
    beq_iff_eq] at h ⊢
  by_cases htab : c = '\t'
  · exact .inl htab
  · right
    constructor
    · by_contra hlow
      exact h (.inl ⟨⟨Nat.not_le.mp hlow, htab⟩, hline⟩)
    · exact fun hdelete => h (.inr hdelete)

theorem readNewline_of_isPlain (h : isPlain c) : readNewline (c :: rest) = none := by
  have hne : ∀ d, ¬ isPlain d → c ≠ d := fun d hd hcd => hd (hcd ▸ h)
  simp [readNewline, hne '\n' (by decide), hne '\r' (by decide)]

section Escapes

/--
Between double quotes a character other than a quote is written as an escape, which does not look
like the end of a line, or as it is; over several lines, line ends are too.
-/
theorem escapeChar_cases (lines : Bool) (hc : c ≠ '"') :
    (∃ mark, escapeChar lines c = '\\' :: mark ∧
      ∀ rest, readEscape (mark ++ rest) = some (c, rest) ∧ readJoin (mark ++ rest) = none) ∨
    (escapeChar lines c = [c] ∧ isPlain c ∧ c ≠ '\\') ∨
    (lines = true ∧ c = '\n' ∧ escapeChar lines c = ['\n']) := by
  unfold escapeChar
  split
  case h_6 =>
    cases lines with
    | false => exact .inl ⟨_, rfl, fun _ => ⟨rfl, rfl⟩⟩
    | true => exact .inr (.inr ⟨rfl, rfl, rfl⟩)
  case h_7 _ _ _ _ hbackslash hline =>
    split
    · next hcontrol =>
      have hsmall : c.toNat < 0x80 := by
        simp only [isControl, Bool.or_eq_true, Bool.and_eq_true, decide_eq_true_iff,
          beq_iff_eq] at hcontrol
        omega
      refine .inl ⟨_, rfl, fun rest => ⟨?_, rfl⟩⟩
      have hdigits : readFixed 16 4 ('0' :: '0' :: (Nat.digitChar (c.toNat / 16)).toUpper ::
          (Nat.digitChar (c.toNat % 16)).toUpper :: rest) = some (c.toNat, rest) :=
        readFixed_hexadecimal Char.toUpper (by simp) hsmall
      change readCodePoint 4 ('0' :: '0' :: (Nat.digitChar (c.toNat / 16)).toUpper ::
        (Nat.digitChar (c.toNat % 16)).toUpper :: rest) = some (c, rest)
      have hvalid : c.toNat.isValidChar := c.valid
      simp only [readCodePoint, hdigits, Option.bind_eq_bind, Option.bind_some]
      rw [if_pos hvalid, Char.ofNat_toNat]
    · next hcontrol =>
      exact .inr (.inl ⟨rfl, isPlain_of_not_isControl hcontrol hline, hbackslash⟩)
  all_goals exact .inl ⟨_, rfl, fun _ => ⟨rfl, rfl⟩⟩

variable {lines : Bool}

theorem escape_cons (hc : c ≠ '"') :
    escape lines run (c :: cs) = escapeChar lines c ++ escape lines 0 cs := by
  rw [escape]
  exact hc

theorem escape_quote_bare (hrun : run < 2) :
    escape true run ('"' :: cs) = '"' :: escape true (run + 1) cs := by
  simp [escape, hrun]

theorem escape_quote (h : lines = false ∨ 2 ≤ run) :
    escape lines run ('"' :: cs) = '\\' :: '"' :: escape lines 0 cs := by
  rw [escape, if_neg]
  rw [Bool.and_eq_true, decide_eq_true_iff]
  rintro ⟨rfl, hrun⟩
  obtain h | h := h
  · cases h
  · omega

theorem length_le_escape (lines : Bool) (run : Nat) (cs : List Char) :
    cs.length ≤ (escape lines run cs).length := by
  induction cs generalizing run with
  | nil => exact Nat.zero_le _
  | cons c cs ih =>
    by_cases hc : c = '"'
    · subst hc
      rw [escape]
      split
      · exact Nat.succ_le_succ (ih (run + 1))
      · exact Nat.succ_le_succ (Nat.le_succ_of_le (ih 0))
    · have hchar : 0 < (escapeChar lines c).length := by
        obtain ⟨mark, h, -⟩ | ⟨h, -⟩ | ⟨-, -, h⟩ := escapeChar_cases lines hc <;> rw [h] <;>
          exact Nat.zero_lt_succ _
      have hrest := ih 0
      rw [escape_cons hc, List.length_append, List.length_cons]
      omega

theorem readBasic_escape (h : cs.length < n) :
    readBasic n (escape false run cs ++ '"' :: rest) = some (cs, rest) := by
  induction cs generalizing n run with
  | nil =>
    obtain ⟨n, rfl⟩ := Nat.exists_eq_succ_of_ne_zero (Nat.ne_zero_of_lt h)
    rfl
  | cons c cs ih =>
    obtain ⟨n, rfl⟩ := Nat.exists_eq_succ_of_ne_zero (Nat.ne_zero_of_lt h)
    have ih : readBasic n (escape false 0 cs ++ '"' :: rest) = some (cs, rest) :=
      ih (Nat.lt_of_succ_lt_succ h)
    by_cases hc : c = '"'
    · subst hc
      rw [escape_quote (.inl rfl)]
      simp only [List.cons_append, readBasic, readEscape, ih, consRead]
    · rw [escape_cons hc, List.append_assoc]
      obtain ⟨mark, hwrite, hread⟩ | ⟨hwrite, hplain, hbackslash⟩ | ⟨⟨⟩, -⟩ :=
        escapeChar_cases false hc
      · simp only [hwrite, List.cons_append, readBasic, hread, ih, consRead]
      · rw [hwrite, List.singleton_append, readBasic, if_pos hplain, ih, consRead]
        · exact hc
        · exact hbackslash

end Escapes

section Ends

theorem readTripleEnd_of_quotes {j : Nat} (hj : j ≤ 2) (hrest : rest.head? ≠ some q) :
    readTripleEnd q (List.replicate j q ++ q :: q :: q :: rest) =
      some (List.replicate j q, rest) := by
  have hj : j = 0 ∨ j = 1 ∨ j = 2 := by omega
  match rest with
  | [] => obtain rfl | rfl | rfl := hj <;> simp [readTripleEnd, List.replicate]
  | [d] =>
    have hd : d ≠ q := fun h => hrest (congrArg some h)
    obtain rfl | rfl | rfl := hj <;> simp [readTripleEnd, List.replicate, hd]
  | d :: e :: rest =>
    have hd : d ≠ q := fun h => hrest (congrArg some h)
    obtain rfl | rfl | rfl := hj <;> simp [readTripleEnd, List.replicate, hd]

theorem readTripleEnd_eq_none (h : ¬ [q, q, q] <+: cs) : readTripleEnd q cs = none := by
  have hne : ∀ a b c rest, cs = a :: b :: c :: rest → ¬ (a = q ∧ b = q ∧ c = q) := by
    rintro a b c rest rfl ⟨rfl, rfl, rfl⟩
    exact h ⟨rest, rfl⟩
  unfold readTripleEnd
  split
  · exact if_neg (hne _ _ _ _ rfl)
  · exact if_neg (hne _ _ _ _ rfl)
  · exact if_neg (hne _ _ _ _ rfl)
  · rfl

theorem readTripleEnd_of_ne (hc : c ≠ q) : readTripleEnd q (c :: cs) = none :=
  readTripleEnd_eq_none fun h => hc (List.cons_prefix_cons.mp h).1.symm

end Ends

section Lines

theorem readBasicLines_plain (hend : readTripleEnd '"' (c :: cs) = none) (hplain : isPlain c)
    (hc : c ≠ '\\') : readBasicLines (n + 1) (c :: cs) = consRead c (readBasicLines n cs) := by
  rw [readBasicLines]
  simp only [hend, readNewline_of_isPlain hplain, hplain, if_true]
  exact hc

theorem readBasicLines_newline (n : Nat) (cs : List Char) :
    readBasicLines (n + 1) ('\n' :: cs) = consRead '\n' (readBasicLines n cs) := by
  rw [readBasicLines]
  · simp only [readTripleEnd_of_ne (by decide : '\n' ≠ '"'), readNewline]
  · decide

theorem readBasicLines_mark (hread : readEscape cs = some (c, rest)) (hjoin : readJoin cs = none) :
    readBasicLines (n + 1) ('\\' :: cs) = consRead c (readBasicLines n rest) := by
  rw [readBasicLines]
  simp only [readTripleEnd_of_ne (by decide : '\\' ≠ '"'),
    readNewline_of_isPlain (by decide : isPlain '\\'), hjoin, hread]

theorem escape_head {lines : Bool} (cs : List Char) (h : c ≠ '"' ∨ lines = false ∨ 2 ≤ run) :
    ∃ d ds, escape lines run (c :: cs) = d :: ds ∧ d ≠ '"' := by
  by_cases hc : c = '"'
  · subst hc
    rw [escape_quote (h.resolve_left (absurd rfl))]
    exact ⟨_, _, rfl, by decide⟩
  · rw [escape_cons hc]
    obtain ⟨mark, h, -⟩ | ⟨h, -⟩ | ⟨-, -, h⟩ := escapeChar_cases lines hc <;> rw [h]
    · exact ⟨_, _, rfl, by decide⟩
    · exact ⟨_, _, rfl, hc⟩
    · exact ⟨_, _, rfl, by decide⟩

/-- A bare quote does not begin the end of the string, unless quotes are all that is left. -/
theorem not_triple_escape (hrun : run < 2) (hnil : cs ≠ []) (hlast : ¬ (cs = ['"'] ∧ run = 0))
    (tail : List Char) :
    ¬ ['"', '"', '"'] <+: '"' :: (escape true (run + 1) cs ++ tail) := by
  obtain ⟨c, cs, rfl⟩ := List.exists_cons_of_ne_nil hnil
  intro hprefix
  have hprefix := (List.cons_prefix_cons.mp hprefix).2
  by_cases hbare : c = '"' ∧ run = 0
  · obtain ⟨rfl, rfl⟩ := hbare
    obtain ⟨d, ds, rfl⟩ := List.exists_cons_of_ne_nil fun h => hlast ⟨congrArg _ h, rfl⟩
    rw [escape_quote_bare (by decide)] at hprefix
    have hprefix := (List.cons_prefix_cons.mp hprefix).2
    have hhead : d ≠ '"' ∨ true = false ∨ 2 ≤ 0 + 1 + 1 := .inr (.inr (Nat.le_refl 2))
    obtain ⟨e, es, he, hne⟩ := escape_head ds hhead
    rw [he] at hprefix
    exact hne (List.cons_prefix_cons.mp hprefix).1.symm
  · have hhead : c ≠ '"' ∨ true = false ∨ 2 ≤ run + 1 := by
      by_contra h
      obtain ⟨hc, h⟩ := not_or.mp h
      exact hbare ⟨not_not.mp hc, by omega⟩
    obtain ⟨e, es, he, hne⟩ := escape_head cs hhead
    rw [he] at hprefix
    exact hne (List.cons_prefix_cons.mp hprefix).1.symm

/--
The induction is on the text; `run` counts the quotes that stand alone right before it. There are
never three of them, and so those at the end are told apart from the closing ones.
-/
theorem readBasicLines_escape (hrest : rest.head? ≠ some '"') (h : cs.length < n) :
    readBasicLines n (escape true run cs ++ '"' :: '"' :: '"' :: rest) = some (cs, rest) := by
  induction cs generalizing n run with
  | nil =>
    obtain ⟨n, rfl⟩ := Nat.exists_eq_succ_of_ne_zero (Nat.ne_zero_of_lt h)
    have hend : readTripleEnd '"' ('"' :: '"' :: '"' :: rest) = some ([], rest) :=
      readTripleEnd_of_quotes (j := 0) (by decide) hrest
    simp only [escape, List.nil_append, readBasicLines, hend]
  | cons c cs ih =>
    obtain ⟨n, rfl⟩ := Nat.exists_eq_succ_of_ne_zero (Nat.ne_zero_of_lt h)
    have ih : ∀ run, readBasicLines n (escape true run cs ++ '"' :: '"' :: '"' :: rest) =
        some (cs, rest) := fun run => ih (Nat.lt_of_succ_lt_succ h)
    by_cases hc : c = '"'
    · subst hc
      by_cases hrun : run < 2
      · rw [escape_quote_bare hrun]
        by_cases hnil : cs = []
        · subst hnil
          have hend : readTripleEnd '"' ('"' :: '"' :: '"' :: '"' :: rest) = some (['"'], rest) :=
            readTripleEnd_of_quotes (j := 1) (by decide) hrest
          simp only [escape, List.cons_append, List.nil_append, readBasicLines, hend]
        · by_cases hlast : cs = ['"'] ∧ run = 0
          · obtain ⟨rfl, rfl⟩ := hlast
            have hend : readTripleEnd '"' ('"' :: '"' :: '"' :: '"' :: '"' :: rest) =
                some (['"', '"'], rest) :=
              readTripleEnd_of_quotes (j := 2) (by decide) hrest
            simp only [escape_quote_bare (by decide : 0 + 1 < 2), escape, List.cons_append,
              List.nil_append, readBasicLines, hend]
          · have hmiddle := readTripleEnd_eq_none
              (not_triple_escape hrun hnil hlast ('"' :: '"' :: '"' :: rest))
            rw [List.cons_append, readBasicLines_plain hmiddle (by decide) (by decide), ih,
              consRead]
      · rw [escape_quote (.inr (Nat.not_lt.mp hrun)), List.cons_append, List.cons_append,
          readBasicLines_mark rfl rfl, ih, consRead]
    · rw [escape_cons hc, List.append_assoc]
      obtain ⟨mark, hwrite, hread⟩ | ⟨hwrite, hplain, hbackslash⟩ | ⟨-, rfl, hwrite⟩ :=
        escapeChar_cases true hc
      · obtain ⟨hread, hjoin⟩ := hread (escape true 0 cs ++ '"' :: '"' :: '"' :: rest)
        rw [hwrite, List.cons_append, readBasicLines_mark hread hjoin, ih, consRead]
      · rw [hwrite, List.singleton_append,
          readBasicLines_plain (readTripleEnd_of_ne hc) hplain hbackslash, ih, consRead]
      · rw [hwrite, List.singleton_append, readBasicLines_newline, ih, consRead]

end Lines

section Literals

theorem readLiteral_append (h : ∀ c ∈ cs, isPlain c ∧ c ≠ '\'') :
    readLiteral (cs ++ '\'' :: rest) = some (cs, rest) := by
  induction cs with
  | nil => rfl
  | cons c cs ih =>
    obtain ⟨⟨hplain, hc⟩, h⟩ := List.forall_mem_cons.mp h
    rw [List.cons_append, readLiteral, if_pos hplain, ih h, consRead]
    exact hc

/-- One step of the count of quotes in a row, and of the longest such row so far. -/
def countQuote (q : Char) : Nat × Nat → Char → Nat × Nat :=
  fun (longest, run) c => if c = q then (max longest (run + 1), run + 1) else (longest, 0)

theorem le_foldl_countQuote (q : Char) (count : Nat × Nat) (cs : List Char) :
    count.1 ≤ (cs.foldl (countQuote q) count).1 := by
  induction cs generalizing count with
  | nil => exact Nat.le_refl _
  | cons c cs ih =>
    refine Nat.le_trans ?_ (ih _)
    rw [countQuote]
    split
    · exact Nat.le_max_left _ _
    · exact Nat.le_refl _

theorem not_infix_of_longestRun (h : longestRun q cs ≤ 2) : ¬ [q, q, q] <:+: cs := by
  rintro ⟨s, t, rfl⟩
  change ((s ++ [q, q, q] ++ t).foldl (countQuote q) (0, 0)).1 ≤ 2 at h
  rw [List.foldl_append, List.foldl_append] at h
  have hle := Nat.le_trans (le_foldl_countQuote ..) h
  simp only [List.foldl_cons, List.foldl_nil, countQuote, if_true] at hle
  omega

theorem not_triple_append (h : ¬ [q, q, q] <:+: q :: cs) (hnil : cs ≠ []) (hlast : cs ≠ [q])
    (tail : List Char) : ¬ [q, q, q] <+: q :: (cs ++ tail) := by
  match cs with
  | [] => exact absurd rfl hnil
  | [c] =>
    intro hprefix
    have hc := (List.cons_prefix_cons.mp (List.cons_prefix_cons.mp hprefix).2).1
    exact hlast (congrArg (fun c => [c]) hc.symm)
  | c :: d :: cs =>
    intro hprefix
    obtain ⟨hc, hprefix'⟩ := List.cons_prefix_cons.mp (List.cons_prefix_cons.mp hprefix).2
    obtain ⟨hd, -⟩ := List.cons_prefix_cons.mp hprefix'
    subst hc hd
    exact h ⟨[], cs, rfl⟩

theorem readLiteralLines_plain (hend : readTripleEnd '\'' (c :: cs) = none) (hplain : isPlain c) :
    readLiteralLines (n + 1) (c :: cs) = consRead c (readLiteralLines n cs) := by
  rw [readLiteralLines]
  simp only [hend, readNewline_of_isPlain hplain, hplain, if_true]

theorem readLiteralLines_newline (n : Nat) (cs : List Char) :
    readLiteralLines (n + 1) ('\n' :: cs) = consRead '\n' (readLiteralLines n cs) := by
  rw [readLiteralLines]
  simp only [readTripleEnd_of_ne (by decide : '\n' ≠ '\''), readNewline]

theorem readLiteralLines_append (hplain : ∀ c ∈ cs, isPlain c ∨ c = '\n')
    (htriple : ¬ ['\'', '\'', '\''] <:+: cs) (hrest : rest.head? ≠ some '\'')
    (h : cs.length < n) :
    readLiteralLines n (cs ++ '\'' :: '\'' :: '\'' :: rest) = some (cs, rest) := by
  induction cs generalizing n with
  | nil =>
    obtain ⟨n, rfl⟩ := Nat.exists_eq_succ_of_ne_zero (Nat.ne_zero_of_lt h)
    have hend : readTripleEnd '\'' ('\'' :: '\'' :: '\'' :: rest) = some ([], rest) :=
      readTripleEnd_of_quotes (j := 0) (by decide) hrest
    simp only [List.nil_append, readLiteralLines, hend]
  | cons c cs ih =>
    obtain ⟨n, rfl⟩ := Nat.exists_eq_succ_of_ne_zero (Nat.ne_zero_of_lt h)
    obtain ⟨hc, hplain⟩ := List.forall_mem_cons.mp hplain
    have ih := ih hplain (fun h => htriple (h.trans (List.suffix_cons c cs).isInfix))
      (Nat.lt_of_succ_lt_succ h)
    rcases hc with hc | rfl
    · by_cases hquote : c = '\''
      · subst hquote
        by_cases hnil : cs = []
        · subst hnil
          have hend : readTripleEnd '\'' ('\'' :: '\'' :: '\'' :: '\'' :: rest) =
              some (['\''], rest) :=
            readTripleEnd_of_quotes (j := 1) (by decide) hrest
          simp only [List.cons_append, List.nil_append, readLiteralLines, hend]
        · by_cases hlast : cs = ['\'']
          · subst hlast
            have hend : readTripleEnd '\'' ('\'' :: '\'' :: '\'' :: '\'' :: '\'' :: rest) =
                some (['\'', '\''], rest) :=
              readTripleEnd_of_quotes (j := 2) (by decide) hrest
            simp only [List.cons_append, List.nil_append, readLiteralLines, hend]
          · have hmiddle := readTripleEnd_eq_none
              (not_triple_append htriple hnil hlast ('\'' :: '\'' :: '\'' :: rest))
            rw [List.cons_append, readLiteralLines_plain hmiddle hc, ih, consRead]
      · rw [List.cons_append, readLiteralLines_plain (readTripleEnd_of_ne hquote) hc, ih, consRead]
    · rw [List.cons_append, readLiteralLines_newline, ih, consRead]

end Literals

section Strings

/-- What follows does not go on with quotes. -/
def StopsQuotes (cs : List Char) : Prop :=
  cs.head? ≠ some '"' ∧ cs.head? ≠ some '\''

theorem stopsQuotes_cons (hdouble : c ≠ '"') (hsingle : c ≠ '\'') : StopsQuotes (c :: rest) :=
  ⟨fun h => hdouble (Option.some.inj h), fun h => hsingle (Option.some.inj h)⟩

theorem skipFirstNewline_opening {written : List Char}
    (h : '\n' ∉ cs → readNewline written = none) :
    skipFirstNewline (opening cs ++ written) = written := by
  rw [opening]
  split
  · rfl
  · next hline =>
    rw [List.contains_iff_mem] at hline
    rw [List.nil_append, skipFirstNewline, h hline, Option.getD_none]

/-- Which characters a style can hold. -/
def Style.Holds (cs : List Char) : Style → Prop
  | .basic | .basicLines => True
  | .literal => ∀ c ∈ cs, isPlain c ∧ c ≠ '\''
  | .literalLines => (∀ c ∈ cs, isPlain c ∨ c = '\n') ∧ ¬ ['\'', '\'', '\''] <:+: cs

theorem Style.of_holds (cs : List Char) : (Style.of cs).Holds cs := by
  have hplain : (!cs.any isControl) = true → ∀ c ∈ cs, isPlain c ∨ c = '\n' := by
    intro h c hc
    by_cases hline : c = '\n'
    · exact .inr hline
    · rw [Bool.not_eq_true', List.any_eq_false] at h
      exact .inl (isPlain_of_not_isControl (h c hc) hline)
  unfold Style.of
  dsimp only
  split
  · trivial
  split
  · next h =>
    simp only [Bool.and_eq_true] at h
    obtain ⟨⟨hcontrol, hline⟩, hquote⟩ := h
    rw [Bool.not_eq_true', ← Bool.not_eq_true, List.contains_iff_mem] at hline hquote
    intro c hc
    refine ⟨(hplain hcontrol c hc).resolve_right ?_, ?_⟩
    · rintro rfl
      exact hline hc
    · rintro rfl
      exact hquote hc
  split
  · trivial
  split
  · next h =>
    rw [Bool.and_eq_true, decide_eq_true_iff] at h
    exact ⟨hplain h.1, not_infix_of_longestRun h.2⟩
  split <;> trivial

theorem readString_basic (h : ¬ ['"', '"'] <+: cs) :
    readString ('"' :: cs) = readBasic cs.length cs := by
  rw [readString]
  rintro rest rfl
  exact h ⟨rest, rfl⟩

theorem readString_literal (h : ¬ ['\'', '\''] <+: cs) :
    readString ('\'' :: cs) = readLiteral cs := by
  rw [readString]
  rintro rest rfl
  exact h ⟨rest, rfl⟩

theorem not_open_basic (hrest : rest.head? ≠ some '"') :
    ¬ ['"', '"'] <+: escape false 0 cs ++ '"' :: rest := by
  intro hprefix
  cases cs with
  | nil =>
    obtain ⟨tail, htail⟩ := (List.cons_prefix_cons.mp hprefix).2
    exact hrest (htail ▸ rfl)
  | cons c cs =>
    have hhead : c ≠ '"' ∨ false = false ∨ 2 ≤ 0 := .inr (.inl rfl)
    obtain ⟨d, ds, hd, hne⟩ := escape_head cs hhead
    rw [hd] at hprefix
    exact hne (List.cons_prefix_cons.mp hprefix).1.symm

theorem not_open_literal (h : ∀ c ∈ cs, isPlain c ∧ c ≠ '\'') (hrest : rest.head? ≠ some '\'') :
    ¬ ['\'', '\''] <+: cs ++ '\'' :: rest := by
  intro hprefix
  cases cs with
  | nil =>
    obtain ⟨tail, htail⟩ := (List.cons_prefix_cons.mp hprefix).2
    exact hrest (htail ▸ rfl)
  | cons c cs => exact (h c List.mem_cons_self).2 (List.cons_prefix_cons.mp hprefix).1.symm

theorem readNewline_escape (hline : '\n' ∉ cs) :
    readNewline (escape true 0 cs ++ '"' :: rest) = none := by
  cases cs with
  | nil => rfl
  | cons c cs =>
    by_cases hc : c = '"'
    · subst hc
      rw [escape_quote_bare (by decide)]
      rfl
    · rw [escape_cons hc]
      obtain ⟨mark, h, -⟩ | ⟨h, hplain, -⟩ | ⟨-, rfl, -⟩ := escapeChar_cases true hc
      · rw [h]
        rfl
      · rw [h]
        exact readNewline_of_isPlain hplain
      · exact absurd List.mem_cons_self hline

theorem readNewline_literal (h : ∀ c ∈ cs, isPlain c ∨ c = '\n') (hline : '\n' ∉ cs) :
    readNewline (cs ++ '\'' :: rest) = none := by
  cases cs with
  | nil => rfl
  | cons c cs =>
    obtain hc | rfl := h c List.mem_cons_self
    · exact readNewline_of_isPlain hc
    · exact absurd List.mem_cons_self hline

theorem readString_write {style : Style} (hholds : style.Holds cs) (hrest : StopsQuotes rest) :
    readString (style.write cs ++ rest) = some (cs, rest) := by
  cases style with
  | basic =>
    have hlength := length_le_escape false 0 cs
    simp only [Style.write, List.cons_append, List.append_assoc, List.nil_append]
    rw [readString_basic (not_open_basic hrest.1), readBasic_escape]
    rw [List.length_append, List.length_cons]
    omega
  | literal =>
    simp only [Style.write, List.cons_append, List.append_assoc, List.nil_append]
    rw [readString_literal (not_open_literal hholds hrest.2), readLiteral_append hholds]
  | basicLines =>
    have hlength := length_le_escape true 0 cs
    simp only [Style.write, List.cons_append, List.append_assoc, List.nil_append, readString,
      skipFirstNewline_opening readNewline_escape]
    rw [readBasicLines_escape hrest.1]
    simp only [List.length_append, List.length_cons]
    omega
  | literalLines =>
    simp only [Style.write, List.cons_append, List.append_assoc, List.nil_append, readString,
      skipFirstNewline_opening (readNewline_literal hholds.1)]
    rw [readLiteralLines_append hholds.1 hholds.2 hrest.2]
    simp only [List.length_append, List.length_cons]
    omega

theorem readString_writeString (cs : List Char) (hrest : StopsQuotes rest) :
    readString (writeString cs ++ rest) = some (cs, rest) :=
  readString_write (Style.of_holds cs) hrest

theorem readKeyPart_bare (hne : cs ≠ []) (h : ∀ c ∈ cs, isBare c)
    (hrest : ∀ c ∈ rest.head?, ¬ isBare c) : readKeyPart (cs ++ rest) = some (cs, rest) := by
  obtain ⟨htake, hdrop⟩ := span_append h hrest
  obtain ⟨c, cs, rfl⟩ := List.exists_cons_of_ne_nil hne
  have hc := h c List.mem_cons_self
  have hquote : ∀ d, ¬ isBare d → c ≠ d := fun d hd hcd => hd (hcd ▸ hc)
  unfold readKeyPart
  split
  · next heq => exact absurd (List.cons.inj heq).1 (hquote _ (by decide))
  · next heq => exact absurd (List.cons.inj heq).1 (hquote _ (by decide))
  · simp only [htake, hdrop, List.isEmpty_cons, Bool.false_eq_true, if_false]

theorem readKeyPart_writeKey (cs : List Char) (hrest : ∀ c ∈ rest.head?, ¬ isBare c) :
    readKeyPart (writeKey cs ++ rest) = some (cs, rest) := by
  have hbasic : readKeyPart (Style.basic.write cs ++ rest) = some (cs, rest) := by
    have hlength := length_le_escape false 0 cs
    simp only [Style.write, List.cons_append, List.append_assoc, List.nil_append, readKeyPart]
    rw [readBasic_escape]
    rw [List.length_append, List.length_cons]
    omega
  unfold writeKey
  split
  · next hbare =>
    rw [Bool.and_eq_true, Bool.not_eq_true', ← Bool.not_eq_true, List.isEmpty_iff,
      List.all_eq_true] at hbare
    exact readKeyPart_bare hbare.1 hbare.2 hrest
  · split
    · next hstyle =>
      have hholds := Style.of_holds cs
      rw [hstyle] at hholds
      simp only [Style.write, List.cons_append, List.append_assoc, List.nil_append, readKeyPart]
      exact readLiteral_append hholds
    · exact hbasic

end Strings

end DocLaunch.Toml
