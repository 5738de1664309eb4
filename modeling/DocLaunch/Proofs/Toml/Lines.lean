import DocLaunch.Proofs.Toml.Quoting
import DocLaunch.Proofs.Toml.Reading

namespace DocLaunch.Toml

/-- The value stands for something plain. -/
def Value.Shows (v : Value) : Plain → Prop
  | .text s => v.IsText s
  | .boolean b => v.IsBoolean b
  | .texts ss => v.IsTexts ss

/-- An assignment of a value that stands for that of the entry. -/
inductive Statement.Assigns : Statement → String × Plain → Prop where
  | intro (mark : Nat) {k : String} {v : Value} {p : Plain} (h : v.Shows p) :
    Assigns (.assign [⟨k, mark⟩] v) (k, p)

/-- The header of a section and the assignments under it. -/
inductive Section.WrittenAs : Section → List Statement → Prop where
  | intro (mark : Nat) {keys : List Key} {path : List String} {entries : List (String × Plain)}
    {ss : List Statement} (hkeys : keys.map Key.text = path)
    (h : List.Forall₂ Statement.Assigns ss entries) :
    WrittenAs ⟨path, entries⟩ (.header mark keys :: ss)

variable {cs rest : List Char} {c : Char} {n : Nat}

section Values

/-- A character with which neither blank space, nor a comment, nor a line end begins. -/
def Solid (c : Char) : Prop :=
  c ∉ [' ', '\t', '\n', '\r', '#']

theorem Solid.isGap_eq_false (hc : Solid c) : isGap c = false := by
  simp only [Solid, List.mem_cons, List.not_mem_nil, or_false, not_or] at hc
  simp [isGap, hc]

theorem Solid.ne_comment (hc : Solid c) : c ≠ '#' :=
  fun h => hc (by simp [h])

theorem Solid.readNewline (hc : Solid c) : readNewline (c :: cs) = none := by
  simp only [Solid, List.mem_cons, List.not_mem_nil, or_false, not_or] at hc
  simp [Toml.readNewline, hc]

theorem Solid.skipGap (hc : Solid c) : skipGap (c :: cs) = c :: cs := by
  rw [Toml.skipGap, List.dropWhile_cons_of_neg]
  rw [hc.isGap_eq_false]
  exact Bool.false_ne_true

theorem Solid.skipFiller (hc : Solid c) (n : Nat) (cs : List Char) :
    skipFiller n (c :: cs) = c :: cs := by
  cases n with
  | zero => rfl
  | succ n => simp [Toml.skipFiller, hc.readNewline, hc.isGap_eq_false, hc.ne_comment]

theorem Solid.finishLine (hc : Solid c) : finishLine (c :: cs) = none := by
  simp [Toml.finishLine, hc.skipGap, hc.ne_comment, hc.readNewline]

theorem exists_writeString_eq_cons (cs : List Char) :
    ∃ q ds, writeString cs = q :: ds ∧ (q = '"' ∨ q = '\'') := by
  rw [writeString]
  cases Style.of cs
  · exact ⟨_, _, rfl, .inl rfl⟩
  · exact ⟨_, _, rfl, .inr rfl⟩
  · exact ⟨_, _, rfl, .inl rfl⟩
  · exact ⟨_, _, rfl, .inr rfl⟩

theorem readValue_writeString (s : String) {rest : List Char} (hrest : StopsQuotes rest) (n : Nat) :
    ∃ v, readValue n (writeString s.toList ++ rest) = some (v, rest) ∧ v.IsText s := by
  have hread := readString_writeString s.toList hrest
  obtain ⟨q, ds, hq, hquote⟩ := exists_writeString_eq_cons s.toList
  rw [hq, List.cons_append] at hread ⊢
  have hscalar : readScalar (q :: (ds ++ rest)) = some (.text s, rest) := by
    obtain rfl | rfl := hquote <;> simp [readScalar, hread]
  refine ⟨.scalar (q :: (ds ++ rest)).length (.text s), ?_, .intro _ s⟩
  cases n with
  | zero => rw [readValue, hscalar, Option.map_some]
  | succ n => obtain rfl | rfl := hquote <;> simp [readValue, hscalar]

theorem solid_quote {q : Char} (hq : q = '"' ∨ q = '\'') : Solid q := by
  unfold Solid
  obtain rfl | rfl := hq <;> decide

theorem skipFiller_close (n : Nat) (cs : List Char) : skipFiller n (']' :: cs) = ']' :: cs :=
  Solid.skipFiller (by unfold Solid; decide) n cs

theorem skipFiller_comma (n : Nat) (cs : List Char) : skipFiller n (',' :: cs) = ',' :: cs :=
  Solid.skipFiller (by unfold Solid; decide) n cs

theorem readItems_single (s : String) (rest : List Char) (d : Nat) (hn : 0 < n) :
    ∃ vs, readItems (readValue d) n (writeString s.toList ++ ']' :: rest) = some (vs, rest) ∧
      List.Forall₂ Value.IsText vs [s] := by
  obtain ⟨n, rfl⟩ := Nat.exists_eq_succ_of_ne_zero (Nat.ne_zero_of_lt hn)
  have hstops : StopsQuotes (']' :: rest) := stopsQuotes_cons (by decide) (by decide)
  obtain ⟨v, hv, hshow⟩ := readValue_writeString s hstops d
  obtain ⟨q, ds, hq, hquote⟩ := exists_writeString_eq_cons s.toList
  rw [hq, List.cons_append] at hv ⊢
  have hne : q ≠ ']' := by obtain rfl | rfl := hquote <;> decide
  refine ⟨[v], ?_, .cons hshow .nil⟩
  simp [readItems, (solid_quote hquote).skipFiller, hne, hv, skipFiller_close]

/-- What is written for one of several items: a line of its own, set in, with a comma at its end. -/
def itemLine (s : String) : List Char :=
  [' ', ' ', ' ', ' '] ++ writeString s.toList ++ [',', '\n']

theorem readItems_itemLines (ss : List String) (rest : List Char) (d : Nat) (h : ss.length < n) :
    ∃ vs, readItems (readValue d) n ('\n' :: (ss.flatMap itemLine ++ ']' :: rest)) =
      some (vs, rest) ∧ List.Forall₂ Value.IsText vs ss := by
  induction ss generalizing n with
  | nil =>
    obtain ⟨n, rfl⟩ := Nat.exists_eq_succ_of_ne_zero (Nat.ne_zero_of_lt h)
    refine ⟨[], ?_, .nil⟩
    have hskip : skipFiller ('\n' :: ']' :: rest).length ('\n' :: ']' :: rest) = ']' :: rest :=
      skipFiller_close _ _
    simp only [List.flatMap_nil, List.nil_append, readItems, hskip]
  | cons s ss ih =>
    obtain ⟨n, rfl⟩ := Nat.exists_eq_succ_of_ne_zero (Nat.ne_zero_of_lt h)
    obtain ⟨vs, hvs, hshows⟩ := ih (Nat.lt_of_succ_lt_succ h)
    have hstops : StopsQuotes (',' :: '\n' :: (ss.flatMap itemLine ++ ']' :: rest)) :=
      stopsQuotes_cons (by decide) (by decide)
    obtain ⟨v, hv, hshow⟩ := readValue_writeString s hstops d
    obtain ⟨q, ds, hq, hquote⟩ := exists_writeString_eq_cons s.toList
    rw [hq, List.cons_append] at hv
    have hskip : ∀ cs, skipFiller ('\n' :: ' ' :: ' ' :: ' ' :: ' ' :: q :: cs).length
        ('\n' :: ' ' :: ' ' :: ' ' :: ' ' :: q :: cs) = q :: cs :=
      fun cs => (solid_quote hquote).skipFiller _ _
    have hne : q ≠ ']' := by obtain rfl | rfl := hquote <;> decide
    refine ⟨v :: vs, ?_, .cons hshow hshows⟩
    simp only [List.flatMap_cons, itemLine, hq, List.cons_append, List.nil_append,
      List.append_assoc, readItems, hskip]
    simp [hne, hv, skipFiller_comma, hvs]

theorem readValue_array {items : List Value} {d : Nat}
    (h : readItems (readValue d) cs.length cs = some (items, rest)) :
    readValue (d + 1) ('[' :: cs) = some (.array (cs.length + 1) items, rest) := by
  simp [readValue, h]

theorem length_le_flatMap_itemLine (ss : List String) :
    ss.length ≤ (ss.flatMap itemLine).length := by
  induction ss with
  | nil => exact Nat.le_refl 0
  | cons s ss ih =>
    simp only [List.flatMap_cons, itemLine, List.length_append, List.length_cons]
    omega

theorem readValue_write (p : Plain) (hrest : StopsQuotes rest) (d : Nat) :
    ∃ v, readValue (d + 1) (p.write ++ rest) = some (v, rest) ∧ v.Shows p := by
  match p with
  | .text s => exact readValue_writeString s hrest (d + 1)
  | .boolean true => exact ⟨_, rfl, .intro _ _⟩
  | .boolean false => exact ⟨_, rfl, .intro _ _⟩
  | .texts [] => exact ⟨_, rfl, .array _ .nil⟩
  | .texts [s] =>
    obtain ⟨vs, hvs, hshow⟩ := readItems_single
      (n := (writeString s.toList ++ ']' :: rest).length) s rest d
      (by rw [List.length_append, List.length_cons]; omega)
    refine ⟨_, Eq.trans ?_ (readValue_array hvs), .array _ hshow⟩
    simp only [Plain.write, List.cons_append, List.append_assoc, List.nil_append]
  | .texts (s :: s' :: ss) =>
    have hlength := length_le_flatMap_itemLine (s :: s' :: ss)
    obtain ⟨vs, hvs, hshow⟩ := readItems_itemLines
      (n := ('\n' :: ((s :: s' :: ss).flatMap itemLine ++ ']' :: rest)).length)
      (s :: s' :: ss) rest d
      (by simp only [List.length_cons, List.length_append] at hlength ⊢; omega)
    refine ⟨_, Eq.trans ?_ (readValue_array hvs), .array _ hshow⟩
    change readValue (d + 1)
      ('[' :: '\n' :: ((s :: s' :: ss).flatMap itemLine ++ [']'] ++ rest)) = _
    rw [List.append_assoc, List.singleton_append]

end Values

section Keys

theorem solid_of_isBare (hc : isBare c) : Solid c := by
  unfold Solid
  intro hmem
  simp only [List.mem_cons, List.not_mem_nil, or_false] at hmem
  obtain rfl | rfl | rfl | rfl | rfl := hmem <;> exact absurd hc (by decide)

theorem exists_writeKey_eq_cons (cs : List Char) :
    ∃ c ds, writeKey cs = c :: ds ∧ Solid c ∧ c ≠ '[' := by
  unfold writeKey
  split
  · next h =>
    rw [Bool.and_eq_true, List.all_eq_true] at h
    cases cs with
    | nil => exact absurd h.1 (by decide)
    | cons c cs =>
      have hc := h.2 c List.mem_cons_self
      refine ⟨c, cs, rfl, solid_of_isBare hc, ?_⟩
      rintro rfl
      exact absurd hc (by decide)
  · split
    · exact ⟨_, _, rfl, solid_quote (.inr rfl), by decide⟩
    · exact ⟨_, _, rfl, solid_quote (.inl rfl), by decide⟩

def writePath (path : List String) : List Char :=
  ['.'].intercalate (path.map fun s => writeKey s.toList)

theorem writePath_singleton (s : String) : writePath [s] = writeKey s.toList :=
  List.intercalate_singleton

theorem writePath_cons_cons (s s' : String) (path : List String) :
    writePath (s :: s' :: path) = writeKey s.toList ++ '.' :: writePath (s' :: path) :=
  rfl

theorem exists_writePath_eq_cons {path : List String} (hne : path ≠ []) :
    ∃ c ds, writePath path = c :: ds ∧ Solid c ∧ c ≠ '[' := by
  match path with
  | [] => exact absurd rfl hne
  | [s] =>
    rw [writePath_singleton]
    exact exists_writeKey_eq_cons s.toList
  | s :: s' :: path =>
    obtain ⟨c, ds, hkey, hc⟩ := exists_writeKey_eq_cons s.toList
    rw [writePath_cons_cons, hkey]
    exact ⟨c, _, rfl, hc⟩

theorem skipGap_writeKey (cs rest : List Char) :
    skipGap (writeKey cs ++ rest) = writeKey cs ++ rest := by
  obtain ⟨c, ds, hkey, hc, -⟩ := exists_writeKey_eq_cons cs
  rw [hkey]
  exact hc.skipGap

theorem readKey_writePath {path : List String} (hne : path ≠ []) (hn : path.length ≤ n)
    (hbare : ∀ c ∈ rest.head?, ¬ isBare c) (hdot : (skipGap rest).head? ≠ some '.') :
    ∃ keys, keys.map Key.text = path ∧
      readKey n (writePath path ++ rest) = some (keys, skipGap rest) := by
  induction path generalizing n with
  | nil => exact absurd rfl hne
  | cons s path ih =>
    obtain ⟨n, rfl⟩ := Nat.exists_eq_succ_of_ne_zero (Nat.ne_zero_of_lt hn)
    cases path with
    | nil =>
      refine ⟨[⟨s, (writeKey s.toList ++ rest).length⟩], rfl, ?_⟩
      rw [writePath_singleton, readKey]
      simp only [skipGap_writeKey, readKeyPart_writeKey s.toList hbare, Option.bind_eq_bind,
        Option.bind_some, String.ofList_toList]
      split
      · next hhead => exact absurd (congrArg List.head? hhead) hdot
      · rfl
    | cons s' path =>
      obtain ⟨keys, hkeys, hread⟩ := ih (List.cons_ne_nil s' path) (Nat.le_of_succ_le_succ hn)
      have hstop : ∀ c ∈ ('.' :: (writePath (s' :: path) ++ rest)).head?, ¬ isBare c :=
        fun c hc => Option.some.inj hc ▸ by decide
      have hpart := readKeyPart_writeKey s.toList hstop
      have hskip : skipGap ('.' :: (writePath (s' :: path) ++ rest)) =
          '.' :: (writePath (s' :: path) ++ rest) := rfl
      refine ⟨⟨s, (writeKey s.toList ++ '.' :: (writePath (s' :: path) ++ rest)).length⟩ :: keys,
        congrArg (s :: ·) hkeys, ?_⟩
      rw [writePath_cons_cons, List.append_assoc, List.cons_append, readKey]
      simp only [skipGap_writeKey, hpart, hskip, hread, Option.bind_eq_bind, Option.bind_some,
        String.ofList_toList]

end Keys

section Statements

/-- The text is read as the statements, with any fuel that is enough for its length. -/
def Consists (cs : List Char) (ss : List Statement) : Prop :=
  ∀ n, cs.length < n → readStatements n cs = some ss

theorem consists_nil : Consists [] [] := by
  intro n hn
  obtain ⟨n, rfl⟩ := Nat.exists_eq_succ_of_ne_zero (Nat.ne_zero_of_lt hn)
  rfl

variable {ss : List Statement}

theorem Consists.newline (h : Consists cs ss) : Consists ('\n' :: cs) ss := by
  intro n hn
  obtain ⟨n, rfl⟩ := Nat.exists_eq_succ_of_ne_zero (Nat.ne_zero_of_lt hn)
  exact h n (Nat.lt_of_succ_lt_succ hn)

theorem Consists.line {s : Statement} (hc : Solid c)
    (hread : readStatement (c :: (cs ++ '\n' :: rest)) = some (s, '\n' :: rest))
    (h : Consists rest ss) : Consists (c :: (cs ++ '\n' :: rest)) (s :: ss) := by
  intro n hn
  obtain ⟨n, rfl⟩ := Nat.exists_eq_succ_of_ne_zero (Nat.ne_zero_of_lt hn)
  have hend : finishLine ('\n' :: rest) = some rest := rfl
  have hrest : readStatements n rest = some ss := by
    refine h n ?_
    simp only [List.length_cons, List.length_append] at hn
    omega
  simp only [readStatements, hc.finishLine, hc.skipGap, hread, hend, hrest, Option.bind_eq_bind,
    Option.bind_some]

theorem readStatement_header {path : List String} (hne : path ≠ [])
    (hn : path.length ≤ maxDepth) (rest : List Char) :
    ∃ mark keys, keys.map Key.text = path ∧
      readStatement ('[' :: (writePath path ++ ']' :: rest)) = some (.header mark keys, rest) := by
  have hskip : skipGap (']' :: rest) = ']' :: rest := rfl
  have hstop : ∀ c ∈ (']' :: rest).head?, ¬ isBare c :=
    fun c hc => Option.some.inj hc ▸ by decide
  obtain ⟨keys, hkeys, hread⟩ := readKey_writePath hne hn hstop
    (by rw [hskip]; exact (nomatch ·))
  obtain ⟨c, ds, hpath, -, hbracket⟩ := exists_writePath_eq_cons hne
  rw [hskip, hpath, List.cons_append] at hread
  refine ⟨('[' :: c :: (ds ++ ']' :: rest)).length, keys, hkeys, ?_⟩
  rw [hpath, List.cons_append]
  simp [readStatement, hbracket, hread]

theorem exists_write_eq_cons (p : Plain) : ∃ c ds, p.write = c :: ds ∧ Solid c := by
  match p with
  | .text s =>
    obtain ⟨q, ds, hq, hquote⟩ := exists_writeString_eq_cons s.toList
    exact ⟨q, ds, hq, solid_quote hquote⟩
  | .boolean true | .boolean false => exact ⟨_, _, rfl, by unfold Solid; decide⟩
  | .texts [] | .texts [s] | .texts (s :: s' :: ss) =>
    exact ⟨_, _, rfl, by unfold Solid; decide⟩

theorem readStatement_entry (e : String × Plain) (rest : List Char) :
    ∃ s, s.Assigns e ∧
      readStatement (writeKey e.1.toList ++ ' ' :: '=' :: ' ' :: (e.2.write ++ '\n' :: rest)) =
        some (s, '\n' :: rest) := by
  obtain ⟨k, p⟩ := e
  have hstops : StopsQuotes ('\n' :: rest) := stopsQuotes_cons (by decide) (by decide)
  obtain ⟨v, hv, hshow⟩ := readValue_write p hstops 78
  have hskip : skipGap (' ' :: (p.write ++ '\n' :: rest)) = p.write ++ '\n' :: rest := by
    obtain ⟨c, ds, hwrite, hc⟩ := exists_write_eq_cons p
    rw [hwrite]
    exact hc.skipGap
  have hequals : skipGap (' ' :: '=' :: ' ' :: (p.write ++ '\n' :: rest)) =
      '=' :: ' ' :: (p.write ++ '\n' :: rest) := rfl
  have hstop : ∀ c ∈ (' ' :: '=' :: ' ' :: (p.write ++ '\n' :: rest)).head?, ¬ isBare c :=
    fun c hc => Option.some.inj hc ▸ by decide
  obtain ⟨keys, hkeys, hkey⟩ := readKey_writePath (n := maxDepth) (List.cons_ne_nil k [])
    (by rw [List.length_singleton]; decide) hstop (by rw [hequals]; exact (nomatch ·))
  obtain ⟨⟨text, mark⟩, rfl, htext⟩ := List.map_eq_singleton_iff.mp hkeys
  obtain rfl : text = k := htext
  refine ⟨_, .intro mark hshow, ?_⟩
  rw [writePath_singleton, hequals] at hkey
  have hpair : readPair (readValue maxDepth) (writeKey text.toList ++ ' ' :: '=' :: ' ' ::
      (p.write ++ '\n' :: rest)) = some (([⟨text, mark⟩], v), '\n' :: rest) := by
    simp only [readPair, hkey, hskip, Option.bind_eq_bind, Option.bind_some]
    rw [maxDepth, hv, Option.bind_some]
  obtain ⟨c, ds, hwrite, -, hbracket⟩ := exists_writeKey_eq_cons text.toList
  rw [hwrite, List.cons_append] at hpair ⊢
  simp [readStatement, hbracket, hpair]

theorem Consists.entry (e : String × Plain) (h : Consists rest ss) :
    ∃ s, s.Assigns e ∧ Consists (writeEntry e ++ rest) (s :: ss) := by
  obtain ⟨s, hs, hread⟩ := readStatement_entry e rest
  refine ⟨s, hs, ?_⟩
  obtain ⟨c, ds, hkey, hc, -⟩ := exists_writeKey_eq_cons e.1.toList
  have htext : writeEntry e ++ rest =
      c :: ((ds ++ ' ' :: '=' :: ' ' :: e.2.write) ++ '\n' :: rest) := by
    simp only [writeEntry, hkey, List.cons_append, List.append_assoc, List.nil_append]
  rw [htext]
  refine h.line hc ?_
  rw [hkey] at hread
  simpa only [List.cons_append, List.append_assoc] using hread

theorem Consists.entries (es : List (String × Plain)) (h : Consists rest ss) :
    ∃ ss', List.Forall₂ Statement.Assigns ss' es ∧
      Consists (es.flatMap writeEntry ++ rest) (ss' ++ ss) := by
  induction es with
  | nil => exact ⟨[], .nil, h⟩
  | cons e es ih =>
    obtain ⟨ss', hss', h⟩ := ih
    obtain ⟨s, hs, h⟩ := h.entry e
    refine ⟨s :: ss', .cons hs hss', ?_⟩
    rwa [List.flatMap_cons, List.append_assoc]

theorem Consists.section {s : Section} (hne : s.path ≠ []) (hn : s.path.length ≤ maxDepth)
    (h : Consists rest ss) :
    ∃ ss', s.WrittenAs ss' ∧ Consists (s.write ++ rest) (ss' ++ ss) := by
  obtain ⟨path, entries⟩ := s
  obtain ⟨ss', hss', h⟩ := h.entries entries
  obtain ⟨mark, keys, hkeys, hread⟩ := readStatement_header hne hn
    ('\n' :: (entries.flatMap writeEntry ++ rest))
  refine ⟨.header mark keys :: ss', .intro mark hkeys hss', ?_⟩
  have htext : (Section.mk path entries).write ++ rest =
      '[' :: ((writePath path ++ [']']) ++ '\n' :: (entries.flatMap writeEntry ++ rest)) := by
    simp only [Section.write, writeHeader, writePath, List.cons_append, List.append_assoc,
      List.nil_append]
  rw [htext]
  refine h.line (by unfold Solid; decide) ?_
  rwa [List.append_assoc, List.singleton_append]

theorem consists_writeSections {sections : List Section}
    (h : ∀ s ∈ sections, s.path ≠ [] ∧ s.path.length ≤ maxDepth) :
    ∃ sss, List.Forall₂ Section.WrittenAs sections sss ∧
      Consists (writeSections sections ++ ['\n']) sss.flatten := by
  induction sections with
  | nil => exact ⟨[], .nil, consists_nil.newline⟩
  | cons s sections ih =>
    obtain ⟨⟨hne, hn⟩, h⟩ := List.forall_mem_cons.mp h
    cases sections with
    | nil =>
      obtain ⟨ss, hss, h⟩ := consists_nil.newline.section hne hn
      refine ⟨[ss], .cons hss .nil, ?_⟩
      have htext : writeSections [s] = s.write := List.intercalate_singleton
      rwa [htext, List.flatten_singleton, ← List.append_nil ss]
    | cons s' sections =>
      obtain ⟨sss, hsss, h⟩ := ih h
      obtain ⟨ss, hss, h⟩ := h.newline.section hne hn
      refine ⟨ss :: sss, .cons hss hsss, ?_⟩
      have htext : writeSections (s :: s' :: sections) =
          s.write ++ '\n' :: writeSections (s' :: sections) := rfl
      rwa [htext, List.append_assoc, List.cons_append]

theorem readAll_of_consists (h : Consists cs ss) (hmark : cs.head? ≠ some '\ufeff') :
    Statement.readAll cs = some ss := by
  have hskip : skipByteOrderMark cs = cs := by
    unfold skipByteOrderMark
    split
    · exact absurd rfl hmark
    · rfl
  rw [Statement.readAll, hskip]
  exact h _ (Nat.lt_succ_self _)

/-- Sections, and the line end that is printed behind them, hold the statements of each in turn. -/
theorem readAll_writeSections {sections : List Section}
    (h : ∀ s ∈ sections, s.path ≠ [] ∧ s.path.length ≤ maxDepth) :
    ∃ sss, List.Forall₂ Section.WrittenAs sections sss ∧
      Statement.readAll (writeSections sections ++ ['\n']) = some sss.flatten := by
  obtain ⟨sss, hsss, hconsists⟩ := consists_writeSections h
  refine ⟨sss, hsss, readAll_of_consists hconsists ?_⟩
  match sections with
  | [] => exact (nomatch ·)
  | [s] =>
    have htext : writeSections [s] = s.write := List.intercalate_singleton
    rw [htext]
    exact fun hhead => absurd (Option.some.inj hhead) (by decide)
  | s :: s' :: sections => exact fun hhead => absurd (Option.some.inj hhead) (by decide)

end Statements

end DocLaunch.Toml
