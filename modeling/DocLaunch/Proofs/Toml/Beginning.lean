import DocLaunch.Proofs.Toml.Order

namespace DocLaunch.Toml

/-- From the character with the mark on the text reads like this. -/
def ReadAt {α : Type} (cs : List Char) (mark : Nat) (read : List Char → Option (α × List Char))
    (a : α) : Prop :=
  ∃ text rest, text <:+ cs ∧ text.length = mark ∧ read text = some (a, rest)

def Key.StandsIn (cs : List Char) (key : Key) : Prop :=
  ReadAt cs key.mark readKeyPart key.text.toList

namespace Statement

def path : Statement → List Key
  | .header _ path | .doubleHeader _ path | .assign path _ => path

def withPath (path : List Key) : Statement → Statement
  | .header mark _ => .header mark path
  | .doubleHeader mark _ => .doubleHeader mark path
  | .assign _ v => .assign path v

/-- The statement as one that is made further up, with the keys that lead down from there. -/
def under (front : List Key) (s : Statement) : Statement :=
  s.withPath (front ++ s.path)

/-- What the statement tells of the value of a key, if its path begins with that key. -/
def about? (key : String) (s : Statement) : Option Statement :=
  match s.path with
  | [] => none
  | first :: path => if first.text = key then some (s.withPath path) else none

/-- Where the key stands in the statement, if its path begins with that key. -/
def mention? (key : String) (s : Statement) : Option Nat :=
  match s.path with
  | [] => none
  | first :: _ => if first.text = key then some first.mark else none

/-- Where a value begins for which this is its own header, or which is assigned here. -/
def begins? : Statement → Option Nat
  | .header mark [] | .doubleHeader mark [] => some mark
  | .assign [] v => some v.mark
  | _ => none

@[simp] theorem path_withPath (path : List Key) (s : Statement) :
    (s.withPath path).path = path := by
  cases s <;> rfl

@[simp] theorem withPath_withPath (path path' : List Key) (s : Statement) :
    (s.withPath path).withPath path' = s.withPath path' := by
  cases s <;> rfl

@[simp] theorem withPath_path (s : Statement) : s.withPath s.path = s := by
  cases s <;> rfl

theorem under_nil (s : Statement) : s.under [] = s :=
  s.withPath_path

theorem about?_under_cons (first : Key) (path : List Key) (s : Statement) :
    (s.under (first :: path)).about? first.text = some (s.under path) := by
  simp [about?, under]

theorem mention?_under_cons (first : Key) (path : List Key) (s : Statement) :
    (s.under (first :: path)).mention? first.text = some first.mark := by
  simp [mention?, under]

theorem begins?_of_path {s : Statement} (h : s.path ≠ []) : s.begins? = none := by
  cases s with
  | header mark path | doubleHeader mark path | assign path v =>
    cases path with
    | nil => exact absurd rfl h
    | cons first path => rfl

theorem path_under_ne_nil {s : Statement} (h : s.path ≠ []) (front : List Key) :
    (s.under front).path ≠ [] := by
  rw [under, path_withPath]
  exact List.append_ne_nil_of_right_ne_nil front h

theorem about?_eq_none_of_ne {s s' : Statement} {key key' : String} (h : s.about? key = some s')
    (hne : key' ≠ key) : s.about? key' = none ∧ s.mention? key' = none := by
  unfold about? mention? at *
  cases hpath : s.path with
  | nil => exact ⟨rfl, rfl⟩
  | cons first path =>
    rw [hpath] at h
    obtain ⟨hfirst, -⟩ := Option.ite_none_right_eq_some.mp h
    have hother : first.text ≠ key' := fun heq => hne (heq.symm.trans hfirst)
    exact ⟨if_neg hother, if_neg hother⟩

theorem exists_mention?_of_about? {s s' : Statement} {key : String} (h : s.about? key = some s') :
    ∃ first ∈ s.path.head?, first.text = key := by
  unfold about? at h
  split at h
  · cases h
  · next first path hpath =>
    obtain ⟨hfirst, -⟩ := Option.ite_none_right_eq_some.mp h
    exact ⟨first, by rw [hpath]; rfl, hfirst⟩

end Statement

def about (key : String) (ss : List Statement) : List Statement :=
  ss.filterMap (Statement.about? key)

/--
A value begins at its own header or where it is assigned, or else at the key that mentions it first.
-/
def beginning (key : String) (ss : List Statement) : Option Nat :=
  ((about key ss).findSome? Statement.begins?).or (ss.findSome? (Statement.mention? key))

/-- The table was made by a key and has no header of its own. -/
def Value.isMade : Value → Bool
  | .table _ origin _ => origin == .implied || origin == .dotted
  | _ => false

/-- The statements mention the keys of a table and no others, and each value begins as they tell. -/
structure Heads (ss : List Statement) (entries : Entries) : Prop where
  keys : ∀ s ∈ ss, ∀ first ∈ s.path.head?, ∃ e ∈ entries, e.1 = first.text
  marks : ∀ e ∈ entries, beginning e.1 ss = some e.2.mark
  made : ∀ e ∈ entries, (about e.1 ss).findSome? Statement.begins? = none ↔ e.2.isMade = true

def assigns (pairs : List (List Key × Value)) : List Statement :=
  pairs.map fun p => .assign p.1 p.2

/--
The statements tell of the value, and everything in it begins where the text and they have it begin.
An array of tables has a group of statements for each of its tables, behind the header of the table.
-/
inductive Value.Told (cs : List Char) : List Statement → Value → Prop where
  | scalar {n mark : Nat} {s : Scalar} (hread : ReadAt cs mark (readValue n) (.scalar mark s)) :
    Told cs [.assign [] (.scalar mark s)] (.scalar mark s)
  | array {n mark : Nat} {items : List Value}
    (hread : ReadAt cs mark (readValue n) (.array mark items))
    (h : ∀ v ∈ items, Told cs [.assign [] v] v) :
    Told cs [.assign [] (.array mark items)] (.array mark items)
  | braces {n mark : Nat} {entries : Entries} {pairs : List (List Key × Value)}
    (hread : ReadAt cs mark (readBraces n) pairs)
    (hkeys : ∀ p ∈ pairs, ∀ key ∈ p.1, key.StandsIn cs) (heads : Heads (assigns pairs) entries)
    (h : ∀ e ∈ entries, Told cs (about e.1 (assigns pairs)) e.2) :
    Told cs [.assign [] (.table mark .braces entries)] (.table mark .braces entries)
  | table {ss : List Statement} {mark : Nat} {origin : Origin} {entries : Entries}
    (horigin : origin ≠ .braces) (heads : Heads ss entries)
    (h : ∀ e ∈ entries, Told cs (about e.1 ss) e.2) : Told cs ss (.table mark origin entries)
  | tables {ss : List Statement} {mark : Nat} {items : List Value}
    (groups : List (List Statement × Value))
    (hss : ss = groups.flatMap fun g => .doubleHeader g.2.mark [] :: g.1)
    (hitems : items = groups.map Prod.snd) (hbelow : ∀ g ∈ groups, ∀ s ∈ g.1, s.path ≠ [])
    (h : ∀ g ∈ groups, Told cs g.1 g.2) : Told cs ss (.tables mark items)

/-- A header stands where it begins, and a value that is assigned is as the text has it. -/
def Statement.StandsIn (cs : List Char) (s : Statement) : Prop :=
  (∀ key ∈ s.path, key.StandsIn cs) ∧
    match s with
    | .header mark _ | .doubleHeader mark _ => ReadAt cs mark readStatement s
    | .assign _ v => v.Told cs [.assign [] v] ∧ v.isMade = false

/-- A table, even between braces, of which the statements tell. -/
inductive Value.Holds (cs : List Char) (ss : List Statement) : Value → Prop where
  | intro {mark : Nat} {origin : Origin} {entries : Entries} (heads : Heads ss entries)
    (h : ∀ e ∈ entries, Value.Told cs (about e.1 ss) e.2) : Holds cs ss (.table mark origin entries)

section Adding

variable {cs : List Char} {ss : List Statement} {s s' : Statement} {key : String}
  {entries entries' : Entries} {child v w : Value} {mark m : Nat} {origin made : Origin}

theorem about_append (ss ss' : List Statement) :
    about key (ss ++ ss') = about key ss ++ about key ss' :=
  List.filterMap_append

theorem about_concat (h : s.about? key = some s') : about key (ss ++ [s]) = about key ss ++ [s'] := by
  rw [about_append]
  exact congrArg _ (List.filterMap_cons_some h)

theorem about_concat_of_none (h : s.about? key = none) : about key (ss ++ [s]) = about key ss := by
  rw [about_append, about, about, List.filterMap_cons_none h]
  exact List.append_nil _

theorem beginning_concat_of_none (h : s.about? key = none) (h' : s.mention? key = none) :
    beginning key (ss ++ [s]) = beginning key ss := by
  rw [beginning, about_concat_of_none h, List.findSome?_append]
  simp [beginning, h']

/-- A value begins where it did unless the statement is the first that makes it one of its own. -/
theorem beginning_concat (h : s.about? key = some s') (hmark : beginning key ss = some m)
    (hown : (about key ss).findSome? Statement.begins? ≠ none ∨ s'.begins? = none) :
    beginning key (ss ++ [s]) = some m := by
  rw [beginning] at hmark
  rw [beginning, about_concat h, List.findSome?_append, List.findSome?_append]
  cases hbegins : (about key ss).findSome? Statement.begins? with
  | some m' =>
    rw [hbegins] at hmark
    simpa using hmark
  | none =>
    rw [hbegins] at hmark hown
    have hnone : s'.begins? = none := hown.resolve_left fun h => h rfl
    rw [Option.none_or] at hmark
    simp [hnone, hmark]

theorem beginning_concat_own (h : s.about? key = some s') (hm : s'.begins? = some m)
    (hnone : (about key ss).findSome? Statement.begins? = none) :
    beginning key (ss ++ [s]) = some m := by
  rw [beginning, about_concat h, List.findSome?_append, hnone]
  simp [hm]

theorem Heads.about_eq_nil (heads : Heads ss entries) (hkey : entries.lookup key = none) :
    about key ss = [] ∧ ss.findSome? (Statement.mention? key) = none := by
  have hnot : ∀ s ∈ ss, ∀ first ∈ s.path.head?, first.text ≠ key := by
    intro s hs first hfirst heq
    obtain ⟨e, he, hname⟩ := heads.keys s hs first hfirst
    exact lookup_eq_none_iff_key.mp hkey (heq ▸ hname ▸ List.mem_map_of_mem he)
  constructor
  · refine List.filterMap_eq_nil_iff.mpr fun s hs => ?_
    unfold Statement.about?
    split
    · rfl
    · next first path hpath => exact if_neg (hnot s hs first (by rw [hpath]; rfl))
  · refine List.findSome?_eq_none_iff.mpr fun s hs => ?_
    unfold Statement.mention?
    split
    · rfl
    · next first path hpath => exact if_neg (hnot s hs first (by rw [hpath]; rfl))

theorem heads_nil : Heads [] [] :=
  ⟨nofun, nofun, nofun⟩

theorem Value.holds_emptyTable (cs : List Char) (mark : Nat) (origin : Origin) :
    (Value.table mark origin []).Holds cs [] :=
  .intro heads_nil nofun

namespace Value

theorem Holds.told (h : (Value.table mark origin entries).Holds cs ss) (ho : origin ≠ .braces) :
    (Value.table mark origin entries).Told cs ss := by
  cases h with
  | intro heads h => exact .table ho heads h

theorem Told.holds (h : (Value.table mark origin entries).Told cs ss) (ho : origin ≠ .braces) :
    (Value.table mark origin entries).Holds cs ss := by
  cases h with
  | braces => exact absurd rfl ho
  | table _ heads h => exact .intro heads h

theorem Told.origin_ne_braces (h : (Value.table mark origin entries).Told cs ss)
    (hbelow : ∀ s ∈ ss, s.path ≠ []) : origin ≠ .braces := by
  cases h with
  | braces => exact absurd rfl (hbelow _ List.mem_cons_self)
  | table ho => exact ho

theorem Told.exists_groups {items : List Value} (h : (Value.tables mark items).Told cs ss) :
    ∃ groups : List (List Statement × Value),
      ss = (groups.flatMap fun g => .doubleHeader g.2.mark [] :: g.1) ∧
        items = groups.map Prod.snd ∧ (∀ g ∈ groups, ∀ s ∈ g.1, s.path ≠ []) ∧
          ∀ g ∈ groups, g.2.Told cs g.1 := by
  cases h with
  | tables groups hss hitems hbelow h => exact ⟨groups, hss, hitems, hbelow, h⟩

/-- One more statement, which concerns the value of one key; all others stay. -/
theorem Holds.put (hv : (Value.table mark origin entries).Holds cs ss)
    (hs : s.about? key = some s')
    (hentries : ∀ e ∈ entries', e = (key, child) ∨ e ∈ entries ∧ e.1 ≠ key)
    (hkept : ∀ e ∈ entries, e.1 ≠ key → e ∈ entries') (hnew : (key, child) ∈ entries')
    (hmark : beginning key (ss ++ [s]) = some child.mark)
    (hmade : (about key ss ++ [s']).findSome? Statement.begins? = none ↔ child.isMade = true)
    (hchild : child.Told cs (about key ss ++ [s'])) :
    (Value.table mark origin entries').Holds cs (ss ++ [s]) := by
  obtain ⟨heads, htold⟩ := hv
  have hthere (name : String) (h : ∃ e ∈ entries, e.1 = name) : ∃ e ∈ entries', e.1 = name := by
    obtain ⟨e, he, rfl⟩ := h
    by_cases hname : e.1 = key
    · exact ⟨(key, child), hnew, hname.symm⟩
    · exact ⟨e, hkept e he hname, rfl⟩
  refine .intro ⟨fun t ht first hfirst => ?_, fun e he => ?_, fun e he => ?_⟩ fun e he => ?_
  · rcases List.mem_append.mp ht with ht | ht
    · exact hthere first.text (heads.keys t ht first hfirst)
    · obtain ⟨first', hfirst', hname⟩ := Statement.exists_mention?_of_about? hs
      rw [List.mem_singleton.mp ht] at hfirst
      obtain rfl := Option.mem_unique hfirst hfirst'
      exact ⟨(key, child), hnew, hname.symm⟩
  · rcases hentries e he with rfl | ⟨he, hne⟩
    · exact hmark
    · obtain ⟨habout, hmention⟩ := Statement.about?_eq_none_of_ne hs hne
      rw [beginning_concat_of_none habout hmention]
      exact heads.marks e he
  · rcases hentries e he with rfl | ⟨he, hne⟩
    · rw [about_concat hs]
      exact hmade
    · rw [about_concat_of_none (Statement.about?_eq_none_of_ne hs hne).1]
      exact heads.made e he
  · rcases hentries e he with rfl | ⟨he, hne⟩
    · rw [about_concat hs]
      exact hchild
    · rw [about_concat_of_none (Statement.about?_eq_none_of_ne hs hne).1]
      exact htold e he

theorem Holds.concat (hs : s.path = []) (hv : v.Holds cs ss) : v.Holds cs (ss ++ [s]) := by
  have habout (key : String) : s.about? key = none := by
    unfold Statement.about?
    rw [hs]
  have hmention (key : String) : s.mention? key = none := by
    unfold Statement.mention?
    rw [hs]
  obtain ⟨heads, htold⟩ := hv
  refine .intro ⟨fun t ht first hfirst => ?_, fun e he => ?_, fun e he => ?_⟩ fun e he => ?_
  · rcases List.mem_append.mp ht with ht | ht
    · exact heads.keys t ht first hfirst
    · rw [List.mem_singleton.mp ht, hs] at hfirst
      cases hfirst
  · rw [beginning_concat_of_none (habout e.1) (hmention e.1)]
    exact heads.marks e he
  · rw [about_concat_of_none (habout e.1)]
    exact heads.made e he
  · rw [about_concat_of_none (habout e.1)]
    exact htold e he

theorem Holds.append (hv : (Value.table mark origin entries).Holds cs ss)
    (hkey : entries.lookup key = none) (hs : s.about? key = some s')
    (hmark : (s'.begins?.or (s.mention? key)) = some child.mark)
    (hmade : s'.begins? = none ↔ child.isMade = true) (hchild : child.Told cs [s']) :
    (Value.table mark origin (entries ++ [(key, child)])).Holds cs (ss ++ [s]) := by
  have hfresh : ∀ e ∈ entries, e.1 ≠ key := fun e he hname =>
    lookup_eq_none_iff_key.mp hkey (hname ▸ List.mem_map_of_mem he)
  obtain ⟨habout, hmention⟩ : about key ss = [] ∧ ss.findSome? (Statement.mention? key) = none := by
    cases hv with
    | intro heads _ => exact heads.about_eq_nil hkey
  have hbegins : [s'].findSome? Statement.begins? = s'.begins? := by simp
  refine hv.put hs (fun e he => ?_) (fun e he _ => List.mem_append_left _ he)
    (List.mem_append_right _ List.mem_cons_self) ?_ ?_ ?_
  · rcases List.mem_append.mp he with he | he
    · exact .inr ⟨he, hfresh e he⟩
    · exact .inl (List.mem_singleton.mp he)
  · rw [beginning, about_concat hs, habout, List.nil_append, hbegins, List.findSome?_append,
      hmention, Option.none_or]
    simpa using hmark
  · rw [habout, List.nil_append, hbegins]
    exact hmade
  · rw [habout]
    exact hchild

theorem mem_replace {e : String × Value} (he : e ∈ Entries.replace entries key child) :
    e = (key, child) ∨ e ∈ entries ∧ e.1 ≠ key := by
  obtain ⟨e', he', rfl⟩ := List.mem_map.mp he
  by_cases hname : e'.1 = key
  · rw [if_pos hname]
    exact .inl rfl
  · rw [if_neg hname]
    exact .inr ⟨he', hname⟩

/-- A statement about something further inside keeps the place where the value begins. -/
theorem Holds.replace (hv : (Value.table mark origin entries).Holds cs ss)
    (hkey : entries.lookup key = some v) (hs : s.about? key = some s')
    (hown : v.isMade = false ∨ s'.begins? = none) (hmark : child.mark = v.mark)
    (hmade : child.isMade = v.isMade) (hchild : child.Told cs (about key ss ++ [s'])) :
    (Value.table mark origin (Entries.replace entries key child)).Holds cs (ss ++ [s]) := by
  have hmem : (key, v) ∈ entries := mem_of_lookup hkey
  obtain ⟨hbegins, hthere⟩ : beginning key ss = some v.mark ∧
      ((about key ss).findSome? Statement.begins? = none ↔ v.isMade = true) := by
    cases hv with
    | intro heads _ => exact ⟨heads.marks _ hmem, heads.made _ hmem⟩
  refine hv.put hs (fun _ => mem_replace) (fun e he hname => ?_) (mem_of_lookup (lookup_replace hkey))
    ?_ ?_ hchild
  · exact List.mem_map.mpr ⟨e, he, if_neg hname⟩
  · rw [hmark]
    refine beginning_concat hs hbegins (hown.imp_left fun hnot hnone => ?_)
    rw [hthere.mp hnone] at hnot
    cases hnot
  · rw [List.findSome?_append, Option.or_eq_none_iff, hthere, hmade]
    refine and_iff_left_of_imp fun hyes => ?_
    have hnone := hown.resolve_left fun hnot => by rw [hyes] at hnot; cases hnot
    simp [hnone]

end Value

end Adding

end DocLaunch.Toml
