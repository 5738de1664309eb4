import Mathlib.Data.List.TakeWhile
import DocLaunch.Proofs.Json.Scanning

namespace DocLaunch.Json

def Blank (gap : List Char) : Prop :=
  ∀ c ∈ gap, isSpace c

mutual

inductive Spells : Json → List Char → Prop where
  | null : Spells null ['n', 'u', 'l', 'l']
  | true : Spells (boolean true) ['t', 'r', 'u', 'e']
  | false : Spells (boolean false) ['f', 'a', 'l', 's', 'e']
  | number (m e : Int) : Spells (number m e) (writeNumber m e)
  | string (s : String) : Spells (string s) (writeString s)
  | noItems {gap : List Char} (hgap : Blank gap) : Spells (array []) ('[' :: (gap ++ [']']))
  | array {gap cs : List Char} {v : Json} {vs : List Json} (hgap : Blank gap)
    (h : SpellsItems v vs cs) : Spells (array (v :: vs)) ('[' :: (gap ++ cs))
  | noFields {gap : List Char} (hgap : Blank gap) : Spells (object []) ('{' :: (gap ++ ['}']))
  | object {gap cs : List Char} {k : String} {v : Json} {fields : List (String × Json)}
    (hgap : Blank gap) (h : SpellsFields k v fields cs) :
    Spells (object ((k, v) :: fields)) ('{' :: (gap ++ cs))

/-- The texts of items, the first set apart, and of the bracket behind them. -/
inductive SpellsItems : Json → List Json → List Char → Prop where
  | last {gap cs : List Char} {v : Json} (h : Spells v cs) (hgap : Blank gap) :
    SpellsItems v [] (cs ++ (gap ++ [']']))
  | more {gap gap' cs cs' : List Char} {v w : Json} {vs : List Json} (h : Spells v cs)
    (hgap : Blank gap) (hgap' : Blank gap') (hvs : SpellsItems w vs cs') :
    SpellsItems v (w :: vs) (cs ++ (gap ++ ',' :: (gap' ++ cs')))

/-- The texts of fields, the first set apart, and of the brace behind them. -/
inductive SpellsFields : String → Json → List (String × Json) → List Char → Prop where
  | last {before after gap cs : List Char} {k : String} {v : Json} (hbefore : Blank before)
    (hafter : Blank after) (h : Spells v cs) (hgap : Blank gap) :
    SpellsFields k v [] (writeString k ++ (before ++ ':' :: (after ++ (cs ++ (gap ++ ['}'])))))
  | more {before after gap gap' cs cs' : List Char} {k k' : String} {v w : Json}
    {fields : List (String × Json)} (hbefore : Blank before) (hafter : Blank after)
    (h : Spells v cs) (hgap : Blank gap) (hgap' : Blank gap')
    (hfields : SpellsFields k' w fields cs') :
    SpellsFields k v ((k', w) :: fields)
      (writeString k ++ (before ++ ':' :: (after ++ (cs ++ (gap ++ ',' :: (gap' ++ cs'))))))

end

variable {v w : Json} {vs : List Json} {k : String} {fields : List (String × Json)}
  {gap cs rest : List Char} {c : Char} {n m : Nat}

theorem skipSpace_append (hgap : Blank gap) (hc : ¬ isSpace c) (rest : List Char) :
    skipSpace (gap ++ c :: rest) = c :: rest := by
  rw [skipSpace, List.dropWhile_append_of_pos hgap, List.dropWhile_cons_of_neg hc]

theorem exists_writeNumber_eq_cons (i e : Int) :
    ∃ c cs, writeNumber i e = c :: cs ∧ (c.isDigit ∨ c = '-') := by
  obtain ⟨c, cs, hdigits, hc⟩ := exists_toDigits_eq_cons i.natAbs
  rw [writeNumber, writeInt, hdigits]
  split
  · exact ⟨_, _, rfl, .inr rfl⟩
  · exact ⟨_, _, rfl, .inl hc⟩

/-- The first character of a spelling is no blank and closes nothing. -/
theorem Spells.head (h : Spells v cs) :
    ∃ c cs', cs = c :: cs' ∧ ¬ isSpace c ∧ c ≠ ']' := by
  cases h with
  | number i e =>
    obtain ⟨c, cs, hnumber, hc⟩ := exists_writeNumber_eq_cons i e
    refine ⟨c, cs, hnumber, ?_, ?_⟩
    · simp only [isSpace, Bool.or_eq_true, beq_iff_eq]
      rintro (((rfl | rfl) | rfl) | rfl) <;> exact absurd hc (by decide)
    · rintro rfl
      exact absurd hc (by decide)
  | null | true | false | string | noItems | array | noFields | object =>
    exact ⟨_, _, rfl, by decide, by decide⟩

theorem SpellsItems.head (h : SpellsItems v vs cs) :
    ∃ c cs', cs = c :: cs' ∧ ¬ isSpace c ∧ c ≠ ']' := by
  cases h with
  | last h | more h =>
    obtain ⟨c, cs, rfl, hc⟩ := h.head
    exact ⟨c, _, rfl, hc⟩

theorem SpellsFields.head (h : SpellsFields k v fields cs) : ∃ cs', cs = '"' :: cs' := by
  cases h <;> exact ⟨_, rfl⟩

theorem blank_nil : Blank [] :=
  fun _ hc => nomatch hc

theorem Spells.skipSpace_append (h : Spells v cs) (hgap : Blank gap) (rest : List Char) :
    skipSpace (gap ++ (cs ++ rest)) = cs ++ rest := by
  obtain ⟨c, cs', rfl, hc, -⟩ := h.head
  exact Json.skipSpace_append hgap hc _

theorem stops_append (hgap : Blank gap) (hrest : Stops rest) : Stops (gap ++ rest) := by
  cases gap with
  | nil => exact hrest
  | cons c gap =>
    have hc := hgap c List.mem_cons_self
    simp only [isSpace, Bool.or_eq_true, beq_iff_eq] at hc
    obtain ((rfl | rfl) | rfl) | rfl := hc <;> exact ⟨by decide, by decide, by decide, by decide⟩

theorem stops_cons (hc : c ∈ [',', ']', '}']) : Stops (c :: rest) := by
  simp only [List.mem_cons, List.not_mem_nil, or_false] at hc
  obtain rfl | rfl | rfl := hc <;> exact ⟨by decide, by decide, by decide, by decide⟩

theorem readValue_number (hc : c.isDigit ∨ c = '-') :
    readValue (n + 1) (c :: cs) = readNumber (c :: cs) := by
  have hne : c ∉ ['n', 't', 'f', '"', '[', '{'] := by
    intro hmem
    simp only [List.mem_cons, List.not_mem_nil, or_false] at hmem
    obtain rfl | rfl | rfl | rfl | rfl | rfl := hmem <;> exact absurd hc (by decide)
  simp only [List.mem_cons, List.not_mem_nil, or_false, not_or] at hne
  simp [readValue, hne]

theorem readValue_string (s : String) (rest : List Char) :
    readValue (n + 1) (writeString s ++ rest) = some (string s, rest) := by
  have hread := readString_append s rest
  rw [writeString] at hread ⊢
  rw [List.cons_append] at hread ⊢
  rw [readValue, hread]
  rfl

theorem skipSpace_string (hgap : Blank gap) (s : String) (rest : List Char) :
    skipSpace (gap ++ (writeString s ++ rest)) = writeString s ++ rest :=
  (Spells.string s).skipSpace_append hgap rest

/-- A reader takes the spellings up to a length for what they spell. -/
def Reads (item : List Char → Option (Json × List Char)) (n : Nat) : Prop :=
  ∀ (v : Json) (cs rest : List Char), Spells v cs → cs.length ≤ n → Stops rest →
    item (cs ++ rest) = some (v, rest)

section Items

variable {item : List Char → Option (Json × List Char)}

theorem readItems_append (hitem : Reads item n) (h : SpellsItems v vs cs) (hn : cs.length ≤ n)
    (hm : cs.length ≤ m) (hgap : Blank gap) (rest : List Char) :
    readItems item m (gap ++ (cs ++ rest)) = some (v :: vs, rest) := by
  induction m generalizing v vs cs gap with
  | zero =>
    obtain ⟨c, cs, rfl, -⟩ := h.head
    exact absurd hm (Nat.not_succ_le_zero _)
  | succ m ih =>
    cases h with
    | @last after cs _ h hafter =>
      simp only [List.length_append] at hn
      have hread := hitem v cs (after ++ ']' :: rest) h (by omega)
        (stops_append hafter (stops_cons (by decide)))
      have hskip := h.skipSpace_append hgap (after ++ ']' :: rest)
      have hclose := Json.skipSpace_append (c := ']') hafter (by decide) rest
      simp only [List.append_assoc, List.singleton_append, readItems, hskip, hread, hclose,
        Option.bind_eq_bind, Option.bind_some]
    | @more after before cs cs' _ w vs h hafter hbefore hvs =>
      simp only [List.length_append, List.length_cons] at hn hm
      have hread := hitem v cs (after ++ ',' :: (before ++ (cs' ++ rest))) h (by omega)
        (stops_append hafter (stops_cons (by decide)))
      have hskip := h.skipSpace_append hgap (after ++ ',' :: (before ++ (cs' ++ rest)))
      have hcomma := Json.skipSpace_append (c := ',') hafter (by decide)
        (before ++ (cs' ++ rest))
      have hitems := ih hvs (by omega) (by omega) hbefore
      simp only [List.append_assoc, List.cons_append, readItems, hskip, hread, hcomma, hitems,
        Option.bind_eq_bind, Option.bind_some]

theorem readFields_append (hitem : Reads item n) (h : SpellsFields k v fields cs)
    (hn : cs.length ≤ n) (hm : cs.length ≤ m) (hgap : Blank gap) (rest : List Char) :
    readFields item m (gap ++ (cs ++ rest)) = some ((k, v) :: fields, rest) := by
  induction m generalizing k v fields cs gap with
  | zero =>
    obtain ⟨cs, rfl⟩ := h.head
    exact absurd hm (Nat.not_succ_le_zero _)
  | succ m ih =>
    cases h with
    | @last before after gap' cs _ _ hbefore hafter h hgap' =>
      simp only [List.length_append, List.length_cons] at hn
      have hread := hitem v cs (gap' ++ '}' :: rest) h (by omega)
        (stops_append hgap' (stops_cons (by decide)))
      have hkey := skipSpace_string hgap k
        (before ++ ':' :: (after ++ (cs ++ (gap' ++ '}' :: rest))))
      have hcolon := Json.skipSpace_append (c := ':') hbefore (by decide)
        (after ++ (cs ++ (gap' ++ '}' :: rest)))
      have hskip := h.skipSpace_append hafter (gap' ++ '}' :: rest)
      have hclose := Json.skipSpace_append (c := '}') hgap' (by decide) rest
      simp only [List.append_assoc, List.cons_append, List.nil_append, readFields, hkey,
        readString_append, hcolon, hskip, hread, hclose, Option.bind_eq_bind, Option.bind_some]
    | @more before after gap' gap'' cs cs' _ k' _ w fields hbefore hafter h hgap' hgap'' hfields =>
      simp only [List.length_append, List.length_cons] at hn hm
      have hread := hitem v cs (gap' ++ ',' :: (gap'' ++ (cs' ++ rest))) h (by omega)
        (stops_append hgap' (stops_cons (by decide)))
      have hkey := skipSpace_string hgap k
        (before ++ ':' :: (after ++ (cs ++ (gap' ++ ',' :: (gap'' ++ (cs' ++ rest))))))
      have hcolon := Json.skipSpace_append (c := ':') hbefore (by decide)
        (after ++ (cs ++ (gap' ++ ',' :: (gap'' ++ (cs' ++ rest)))))
      have hskip := h.skipSpace_append hafter (gap' ++ ',' :: (gap'' ++ (cs' ++ rest)))
      have hcomma := Json.skipSpace_append (c := ',') hgap' (by decide)
        (gap'' ++ (cs' ++ rest))
      have hrest := ih hfields (by omega) (by omega) hgap''
      simp only [List.append_assoc, List.cons_append, readFields, hkey, readString_append, hcolon,
        hskip, hread, hcomma, hrest, Option.bind_eq_bind, Option.bind_some]

end Items

/-- The induction is on the depth that the reader allows; a spelling is at least as long as deep. -/
theorem reads_readValue (n : Nat) : Reads (readValue n) n := by
  induction n with
  | zero =>
    intro v cs rest h hn
    obtain ⟨c, cs, rfl, -⟩ := h.head
    exact absurd hn (Nat.not_succ_le_zero _)
  | succ n ih =>
    intro v cs rest h hn hrest
    cases h with
    | null | true | false => rfl
    | number i e =>
      have hread := readNumber_append i e hrest
      obtain ⟨c, cs, hnumber, hc⟩ := exists_writeNumber_eq_cons i e
      rw [hnumber, List.cons_append] at hread ⊢
      rw [readValue_number hc, hread]
    | string s => exact readValue_string s rest
    | noItems hgap =>
      have hskip := Json.skipSpace_append (c := ']') hgap (by decide) rest
      simp only [List.cons_append, List.append_assoc, List.nil_append, readValue, hskip]
    | noFields hgap =>
      have hskip := Json.skipSpace_append (c := '}') hgap (by decide) rest
      simp only [List.cons_append, List.append_assoc, List.nil_append, readValue, hskip]
    | @array gap cs v vs hgap hitems =>
      simp only [List.length_cons, List.length_append] at hn
      have hread := readItems_append (m := (cs ++ rest).length) ih hitems (by omega) (by simp)
        blank_nil rest
      obtain ⟨c, cs, rfl, hc, hclose⟩ := hitems.head
      have hskip := Json.skipSpace_append hgap hc (cs ++ rest)
      simp only [List.nil_append, List.cons_append, List.length_cons, List.length_append] at hread
      simp [readValue, hskip, hread, hclose]
    | @object gap cs k v fields hgap hfields =>
      simp only [List.length_cons, List.length_append] at hn
      have hread := readFields_append (m := (cs ++ rest).length) ih hfields (by omega) (by simp)
        blank_nil rest
      obtain ⟨cs, rfl⟩ := hfields.head
      have hskip := Json.skipSpace_append (c := '"') hgap (by decide) (cs ++ rest)
      simp only [List.nil_append, List.cons_append, List.length_cons, List.length_append] at hread
      simp [readValue, hskip, hread]

/-- A text that holds a spelling, with blank space behind it, holds the value that it spells. -/
theorem Spells.ofText?_append {after : List Char} (h : Spells v cs) (hafter : Blank after) :
    ofText? (cs ++ after) = some v := by
  have hstops : Stops after := by
    have hstops : Stops (after ++ []) := stops_append hafter trivial
    rwa [List.append_nil] at hstops
  have hskip : skipSpace (cs ++ after) = cs ++ after := h.skipSpace_append blank_nil after
  have hread := reads_readValue (cs ++ after).length v cs after h (by simp) hstops
  have hend : skipSpace after = [] := List.dropWhile_eq_nil_iff.mpr hafter
  simp only [ofText?, hskip, hread, hend, List.isEmpty_nil, if_true]

section Layouts

theorem blank_space : Blank [' '] :=
  List.forall_mem_singleton.mpr rfl

theorem blank_newLine (level : Nat) : Blank (newLine level) := by
  rintro c hc
  obtain rfl | hc := List.mem_cons.mp hc
  · rfl
  · rw [List.eq_of_mem_replicate hc]
    rfl

mutual

theorem spells_compact : (v : Json) → Spells v v.compact
  | .null => .null
  | .boolean true => .true
  | .boolean false => .false
  | .number m e => .number m e
  | .string s => .string s
  | .array [] => .noItems blank_nil
  | .array (v :: vs) => .array blank_nil (spellsItems_compact (v :: vs) v vs rfl)
  | .object [] => .noFields blank_nil
  | .object ((k, v) :: fields) =>
    .object blank_nil (spellsFields_compact ((k, v) :: fields) k v fields rfl)

theorem spellsItems_compact :
    (l : List Json) → ∀ v vs, l = v :: vs → SpellsItems v vs (compactItems l)
  | [v], _, _, rfl => .last (spells_compact v) blank_nil
  | v :: w :: vs, _, _, rfl =>
    .more (spells_compact v) blank_nil blank_nil (spellsItems_compact (w :: vs) w vs rfl)

theorem spellsFields_compact :
    (l : List (String × Json)) →
      ∀ k v fields, l = (k, v) :: fields → SpellsFields k v fields (compactFields l)
  | [(_, v)], _, _, _, rfl => .last blank_nil blank_nil (spells_compact v) blank_nil
  | (_, v) :: (k', w) :: fields, _, _, _, rfl =>
    .more blank_nil blank_nil (spells_compact v) blank_nil blank_nil
      (spellsFields_compact ((k', w) :: fields) k' w fields rfl)

end

mutual

theorem spells_pretty : (v : Json) → ∀ level, Spells v (v.pretty level)
  | .null, _ => .null
  | .boolean true, _ => .true
  | .boolean false, _ => .false
  | .number m e, _ => .number m e
  | .string s, _ => .string s
  | .array [], _ => .noItems blank_nil
  | .array (v :: vs), level => by
    obtain ⟨cs, hcs, h⟩ := spellsItems_pretty (v :: vs) level v vs rfl
    rw [pretty, hcs]
    · exact .array (blank_newLine _) h
    · exact List.cons_ne_nil v vs
  | .object [], _ => .noFields blank_nil
  | .object ((k, v) :: fields), level => by
    obtain ⟨cs, hcs, h⟩ := spellsFields_pretty ((k, v) :: fields) level k v fields rfl
    rw [pretty, hcs]
    · exact .object (blank_newLine _) h
    · exact List.cons_ne_nil (k, v) fields

theorem spellsItems_pretty :
    (l : List Json) → ∀ level v vs, l = v :: vs →
      ∃ cs, prettyItems level l = newLine (level + 1) ++ cs ∧ SpellsItems v vs cs
  | [v], level, _, _, rfl => by
    refine ⟨_, ?_, .last (spells_pretty v (level + 1)) (blank_newLine level)⟩
    simp only [prettyItems, List.append_assoc]
  | v :: w :: vs, level, _, _, rfl => by
    obtain ⟨cs, hcs, h⟩ := spellsItems_pretty (w :: vs) level w vs rfl
    refine ⟨_, ?_, .more (spells_pretty v (level + 1)) blank_nil (blank_newLine (level + 1)) h⟩
    simp only [prettyItems, hcs, List.append_assoc, List.nil_append]

theorem spellsFields_pretty :
    (l : List (String × Json)) → ∀ level k v fields, l = (k, v) :: fields →
      ∃ cs, prettyFields level l = newLine (level + 1) ++ cs ∧ SpellsFields k v fields cs
  | [(_, v)], level, _, _, _, rfl => by
    refine ⟨_, ?_, .last blank_nil blank_space (spells_pretty v (level + 1))
      (blank_newLine level)⟩
    simp only [prettyFields, List.append_assoc, List.nil_append, List.cons_append]
  | (_, v) :: (k', w) :: fields, level, _, _, _, rfl => by
    obtain ⟨cs, hcs, h⟩ := spellsFields_pretty ((k', w) :: fields) level k' w fields rfl
    refine ⟨_, ?_, .more blank_nil blank_space (spells_pretty v (level + 1))
      blank_nil (blank_newLine (level + 1)) h⟩
    simp only [prettyFields, hcs, List.append_assoc, List.nil_append, List.cons_append]

end

theorem ofText?_compact (v : Json) : ofText? v.compact = some v := by
  have h := (spells_compact v).ofText?_append blank_nil
  rwa [List.append_nil] at h

theorem ofText?_pretty (v : Json) (level : Nat) {after : List Char} (hafter : Blank after) :
    ofText? (v.pretty level ++ after) = some v :=
  (spells_pretty v level).ofText?_append hafter

end Layouts

end DocLaunch.Json
