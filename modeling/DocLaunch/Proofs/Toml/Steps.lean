import DocLaunch.Proofs.StringTable
import DocLaunch.Toml.Document

namespace DocLaunch.Toml

/-- What holds at the start and is kept by each item holds after all of them. -/
theorem foldlM_induction {α β : Type} {f : β → α → Option β} {P : List α → β → Prop}
    {l : List α} {b b' : β}
    (hstep : ∀ front a b b', a ∈ l → P front b → f b a = some b' → P (front ++ [a]) b')
    (hstart : P [] b) (h : l.foldlM f b = some b') : P l b' := by
  suffices hrest : ∀ front b, P front b → l.foldlM f b = some b' → P (front ++ l) b' from
    hrest [] b hstart h
  clear h hstart
  induction l with
  | nil =>
    rintro front b hb ⟨⟩
    rwa [List.append_nil]
  | cons a l ih =>
    intro front b hb h
    obtain ⟨b₁, hb₁, h⟩ := Option.bind_eq_some_iff.mp h
    have hrest := ih (fun front c b b' hc => hstep front c b b' (List.mem_cons_of_mem a hc))
      (front ++ [a]) b₁ (hstep front a b b₁ List.mem_cons_self hb hb₁) h
    rwa [List.append_assoc] at hrest

section Readers

variable {item : List Char → Option (Value × List Char)} {cs rest : List Char} {n : Nat}

/-- The parts of a key are read one after the other. -/
inductive TakesKey : List Char → List Key → List Char → Prop where
  | last {cs part after : List Char} (hpart : readKeyPart (skipGap cs) = some (part, after)) :
    TakesKey cs [⟨String.ofList part, (skipGap cs).length⟩] (skipGap after)
  | dot {cs part after more rest : List Char} {keys : List Key}
    (hpart : readKeyPart (skipGap cs) = some (part, after)) (hdot : skipGap after = '.' :: more)
    (h : TakesKey more keys rest) :
    TakesKey cs (⟨String.ofList part, (skipGap cs).length⟩ :: keys) rest

theorem takesKey_of_readKey {keys : List Key} (h : readKey n cs = some (keys, rest)) :
    TakesKey cs keys rest := by
  induction n generalizing cs keys with
  | zero => cases h
  | succ n ih =>
    obtain ⟨⟨part, after⟩, hpart, h⟩ := Option.bind_eq_some_iff.mp h
    dsimp only at h
    split at h
    · next more hdot =>
      obtain ⟨⟨keys, rest⟩, hkeys, h⟩ := Option.bind_eq_some_iff.mp h
      cases h
      exact .dot hpart hdot (ih hkeys)
    · cases h
      exact .last hpart

inductive TakesItems (item : List Char → Option (Value × List Char)) :
    List Char → List Value → List Char → Prop where
  | none {cs rest : List Char} (hclose : skipFiller cs.length cs = ']' :: rest) :
    TakesItems item cs [] rest
  | last {cs after rest : List Char} {v : Value}
    (hv : item (skipFiller cs.length cs) = some (v, after))
    (hclose : skipFiller after.length after = ']' :: rest) : TakesItems item cs [v] rest
  | comma {cs after more rest : List Char} {v : Value} {vs : List Value}
    (hv : item (skipFiller cs.length cs) = some (v, after))
    (hcomma : skipFiller after.length after = ',' :: more) (h : TakesItems item more vs rest) :
    TakesItems item cs (v :: vs) rest

theorem takesItems_of_readItems {items : List Value}
    (h : readItems item n cs = some (items, rest)) : TakesItems item cs items rest := by
  induction n generalizing cs items with
  | zero => cases h
  | succ n ih =>
    rw [readItems] at h
    split at h
    · next hclose =>
      cases h
      exact .none hclose
    · obtain ⟨⟨v, after⟩, hv, h⟩ := Option.bind_eq_some_iff.mp h
      dsimp only at h
      split at h
      · next more hcomma =>
        obtain ⟨⟨vs, rest⟩, hvs, h⟩ := Option.bind_eq_some_iff.mp h
        cases h
        exact .comma hv hcomma (ih hvs)
      · next hclose =>
        cases h
        exact .last hv hclose
      · cases h

theorem readPair_eq_some {p : List Key × Value} (h : readPair item cs = some (p, rest)) :
    ∃ more, readKey maxDepth cs = some (p.1, '=' :: more) ∧
      item (skipGap more) = some (p.2, rest) := by
  obtain ⟨⟨path, after⟩, hkey, h⟩ := Option.bind_eq_some_iff.mp h
  dsimp only at h
  split at h
  · next more =>
    obtain ⟨⟨v, rest⟩, hv, h⟩ := Option.bind_eq_some_iff.mp h
    cases h
    exact ⟨more, hkey, hv⟩
  · cases h

inductive TakesPairs (item : List Char → Option (Value × List Char)) :
    List Char → List (List Key × Value) → List Char → Prop where
  | last {cs after rest : List Char} {p : List Key × Value}
    (hp : readPair item cs = some (p, after)) (hclose : skipGap after = '}' :: rest) :
    TakesPairs item cs [p] rest
  | comma {cs after more rest : List Char} {p : List Key × Value} {ps : List (List Key × Value)}
    (hp : readPair item cs = some (p, after)) (hcomma : skipGap after = ',' :: more)
    (h : TakesPairs item more ps rest) : TakesPairs item cs (p :: ps) rest

theorem takesPairs_of_readPairs {pairs : List (List Key × Value)}
    (h : readPairs item n cs = some (pairs, rest)) : TakesPairs item cs pairs rest := by
  induction n generalizing cs pairs with
  | zero => cases h
  | succ n ih =>
    obtain ⟨⟨p, after⟩, hp, h⟩ := Option.bind_eq_some_iff.mp h
    dsimp only at h
    split at h
    · next more hcomma =>
      obtain ⟨⟨ps, rest⟩, hps, h⟩ := Option.bind_eq_some_iff.mp h
      cases h
      exact .comma hp hcomma (ih hps)
    · next hclose =>
      cases h
      exact .last hp hclose
    · cases h

/-- The pairs between braces. -/
def readBraces (n : Nat) : List Char → Option (List (List Key × Value) × List Char)
  | '{' :: rest =>
    match skipGap rest with
    | '}' :: rest => some ([], rest)
    | rest => readPairs (readValue n) rest.length rest
  | _ => none

inductive TakesBraces (item : List Char → Option (Value × List Char)) :
    List Char → List (List Key × Value) → List Char → Prop where
  | empty {inner rest : List Char} (hclose : skipGap inner = '}' :: rest) :
    TakesBraces item ('{' :: inner) [] rest
  | pairs {inner rest : List Char} {pairs : List (List Key × Value)}
    (h : TakesPairs item (skipGap inner) pairs rest) : TakesBraces item ('{' :: inner) pairs rest

theorem takesBraces_of_readBraces {pairs : List (List Key × Value)}
    (h : readBraces n cs = some (pairs, rest)) : TakesBraces (readValue n) cs pairs rest := by
  unfold readBraces at h
  split at h
  · split at h
    · next hclose =>
      cases h
      exact .empty hclose
    · exact .pairs (takesPairs_of_readPairs h)
  · cases h

inductive TakesValue : Nat → List Char → Value → List Char → Prop where
  | scalar {n : Nat} {cs rest : List Char} {s : Scalar} (h : readScalar cs = some (s, rest)) :
    TakesValue n cs (.scalar cs.length s) rest
  | array {n : Nat} {inner rest : List Char} {items : List Value}
    (h : TakesItems (readValue n) inner items rest) :
    TakesValue (n + 1) ('[' :: inner) (.array (inner.length + 1) items) rest
  | braces {n : Nat} {cs rest : List Char} {pairs : List (List Key × Value)} {v : Value}
    (h : readBraces n cs = some (pairs, rest)) (hv : Value.ofPairs cs.length pairs = some v) :
    TakesValue (n + 1) cs v rest

theorem takesValue_of_readScalar {v : Value}
    (h : (readScalar cs).map (fun (s, rest) => (Value.scalar cs.length s, rest)) =
      some (v, rest)) : TakesValue n cs v rest := by
  obtain ⟨⟨s, after⟩, hs, h⟩ := Option.map_eq_some_iff.mp h
  cases h
  exact .scalar hs

theorem takesValue_of_readValue {v : Value} (h : readValue n cs = some (v, rest)) :
    TakesValue n cs v rest := by
  cases n with
  | zero => exact takesValue_of_readScalar h
  | succ n =>
    unfold readValue at h
    split at h
    · obtain ⟨⟨items, after⟩, hitems, h⟩ := Option.bind_eq_some_iff.mp h
      cases h
      exact .array (takesItems_of_readItems hitems)
    · next inner =>
      split at h
      · next hclose =>
        cases h
        have hbraces : readBraces n ('\x7b' :: inner) = some ([], rest) := by
          rw [readBraces, hclose]
          rfl
        exact .braces hbraces rfl
      · next hopen =>
        obtain ⟨⟨pairs, after⟩, hpairs, h⟩ := Option.bind_eq_some_iff.mp h
        obtain ⟨t, ht, h⟩ := Option.bind_eq_some_iff.mp h
        cases h
        have hbraces : readBraces n ('\x7b' :: inner) = some (pairs, rest) := by
          rw [readBraces]
          split
          · next hclose => exact absurd hclose (hopen _)
          · exact hpairs
        exact .braces hbraces ht
    · exact takesValue_of_readScalar h

inductive TakesStatement : List Char → Statement → List Char → Prop where
  | header {inner rest : List Char} {path : List Key}
    (hkey : readKey maxDepth inner = some (path, ']' :: rest)) :
    TakesStatement ('[' :: inner) (.header (inner.length + 1) path) rest
  | doubleHeader {inner rest : List Char} {path : List Key}
    (hkey : readKey maxDepth inner = some (path, ']' :: ']' :: rest)) :
    TakesStatement ('[' :: '[' :: inner) (.doubleHeader (inner.length + 2) path) rest
  | assign {cs rest : List Char} {p : List Key × Value}
    (h : readPair (readValue maxDepth) cs = some (p, rest)) :
    TakesStatement cs (.assign p.1 p.2) rest

theorem takesStatement_of_readStatement {s : Statement} (h : readStatement cs = some (s, rest)) :
    TakesStatement cs s rest := by
  unfold readStatement at h
  split at h
  · obtain ⟨⟨path, after⟩, hkey, h⟩ := Option.bind_eq_some_iff.mp h
    dsimp only at h
    split at h <;> cases h
    exact .doubleHeader hkey
  · obtain ⟨⟨path, after⟩, hkey, h⟩ := Option.bind_eq_some_iff.mp h
    dsimp only at h
    split at h <;> cases h
    exact .header hkey
  · obtain ⟨⟨p, after⟩, hpair, h⟩ := Option.bind_eq_some_iff.mp h
    cases h
    exact .assign hpair

/-- The statements of a text, each followed by the end of its line, with lines between them. -/
inductive TakesLines : List Char → List Statement → Prop where
  | done : TakesLines [] []
  | skip {cs rest : List Char} {ss : List Statement} (hline : finishLine cs = some rest)
    (h : TakesLines rest ss) : TakesLines cs ss
  | line {cs after rest : List Char} {s : Statement} {ss : List Statement}
    (hs : readStatement (skipGap cs) = some (s, after)) (hline : finishLine after = some rest)
    (h : TakesLines rest ss) : TakesLines cs (s :: ss)

theorem takesLines_of_readStatements {ss : List Statement} (h : readStatements n cs = some ss) :
    TakesLines cs ss := by
  induction n generalizing cs ss with
  | zero => cases h
  | succ n ih =>
    unfold readStatements at h
    split at h
    · cases h
      exact .done
    · split at h
      · next hline => exact .skip hline (ih h)
      · obtain ⟨⟨s, after⟩, hs, h⟩ := Option.bind_eq_some_iff.mp h
        obtain ⟨after', hline, h⟩ := Option.bind_eq_some_iff.mp h
        obtain ⟨ss, hss, h⟩ := Option.bind_eq_some_iff.mp h
        cases h
        exact .line hs hline (ih hss)

end Readers

namespace Value

variable {v w child : Value} {key : String} {path : List Key} {made : Origin} {mark : Nat}
  {change : Value → Option Value}

/-- A new entry comes last. -/
inductive Adds (key : String) (child : Value) : Value → Value → Prop where
  | intro {mark : Nat} {origin : Origin} {entries : Entries} (hkey : entries.lookup key = none) :
    Adds key child (.table mark origin entries) (.table mark origin (entries ++ [(key, child)]))

/-- A header makes a table, or completes one that the headers below it implied. -/
inductive Opens (mark : Nat) (key : String) : Value → Value → Prop where
  | make {m : Nat} {origin : Origin} {entries : Entries} (hkey : entries.lookup key = none) :
    Opens mark key (.table m origin entries)
      (.table m origin (entries ++ [(key, .table mark .header [])]))
  | complete {m m' : Nat} {origin : Origin} {entries es : Entries}
    (hkey : entries.lookup key = some (.table m' .implied es)) :
    Opens mark key (.table m origin entries)
      (.table m origin (Entries.remove entries key ++ [(key, .table mark .header es)]))

/-- A doubled header makes an array of tables, or puts a table behind those of one. -/
inductive OpensMore (mark : Nat) (key : String) : Value → Value → Prop where
  | make {m : Nat} {origin : Origin} {entries : Entries} (hkey : entries.lookup key = none) :
    OpensMore mark key (.table m origin entries)
      (.table m origin (entries ++ [(key, .tables mark [.table mark .header []])]))
  | more {m first : Nat} {origin : Origin} {entries : Entries} {items : List Value}
    (hkey : entries.lookup key = some (.tables first items)) :
    OpensMore mark key (.table m origin entries)
      (.table m origin
        (Entries.replace entries key (.tables first (items ++ [.table mark .header []]))))

/-- How following a path of keys changes a value. -/
inductive Descends (made : Origin) (change : Value → Option Value) :
    List Key → Value → Value → Prop where
  | here {v w : Value} (h : change v = some w) : Descends made change [] v w
  | make {key : Key} {path : List Key} {mark : Nat} {origin : Origin} {entries : Entries}
    {child : Value} (hkey : entries.lookup key.text = none)
    (h : Descends made change path (.table key.mark made []) child) :
    Descends made change (key :: path) (.table mark origin entries)
      (.table mark origin (entries ++ [(key.text, child)]))
  | enter {key : Key} {path : List Key} {mark m : Nat} {origin o : Origin}
    {entries es : Entries} {child : Value} (hkey : entries.lookup key.text = some (.table m o es))
    (horigin : o ≠ .braces) (h : Descends made change path (.table m o es) child) :
    Descends made change (key :: path) (.table mark origin entries)
      (.table mark origin (Entries.replace entries key.text child))
  | enterLast {key : Key} {path : List Key} {mark m : Nat} {origin : Origin} {entries : Entries}
    {items : List Value} {last child : Value}
    (hkey : entries.lookup key.text = some (.tables m items)) (hlast : items.getLast? = some last)
    (h : Descends made change path last child) :
    Descends made change (key :: path) (.table mark origin entries)
      (.table mark origin
        (Entries.replace entries key.text (.tables m (items.dropLast ++ [child]))))

theorem adds_of_addEntry {single : Bool} (h : addEntry single key child v = some w) :
    Adds key child v w := by
  cases v with
  | scalar | array | tables => cases h
  | table mark origin entries =>
    rw [addEntry] at h
    split at h
    · cases h
    · split at h <;> cases h
      next hkey => exact .intro (Option.not_isSome_iff_eq_none.mp hkey)

theorem opens_of_openTable (h : openTable mark key v = some w) : Opens mark key v w := by
  cases v with
  | scalar | array | tables => cases h
  | table m origin entries =>
    rw [openTable] at h
    split at h <;> cases h
    · next hkey => exact .make hkey
    · next hkey => exact .complete hkey

theorem opensMore_of_openTables (h : openTables mark key v = some w) : OpensMore mark key v w := by
  cases v with
  | scalar | array | tables => cases h
  | table m origin entries =>
    rw [openTables] at h
    split at h <;> cases h
    · next hkey => exact .make hkey
    · next hkey => exact .more hkey

theorem descends_of_descend (h : descend made change path v = some w) :
    Descends made change path v w := by
  induction path generalizing v w with
  | nil => exact .here h
  | cons key path ih =>
    cases v with
    | scalar | array | tables => cases h
    | table mark origin entries =>
      rw [descend] at h
      split at h
      · next hkey =>
        obtain ⟨child, hchild, h⟩ := Option.bind_eq_some_iff.mp h
        cases h
        exact .make hkey (ih hchild)
      · next hkey =>
        split at h
        · cases h
        · next hopen =>
          obtain ⟨child, hchild, h⟩ := Option.bind_eq_some_iff.mp h
          cases h
          exact .enter hkey (fun ho => hopen (.inl ho)) (ih hchild)
      · next hkey =>
        split at h
        · cases h
        · next hlast =>
          obtain ⟨child, hchild, h⟩ := Option.bind_eq_some_iff.mp h
          cases h
          exact .enterLast hkey hlast (ih hchild)
      · cases h

theorem exists_descends_of_insert (h : insert path child v = some w) :
    ∃ key : Key, path.getLast? = some key ∧
      Descends .dotted (addEntry (path.length == 1) key.text child) path.dropLast v w := by
  unfold insert at h
  split at h
  · cases h
  · next key hkey => exact ⟨key, hkey, descends_of_descend h⟩

/-- A change within a table, which leaves its mark and what made it. -/
def Alters (change : Value → Option Value) : Prop :=
  ∀ v w, change v = some w → ∃ mark origin entries entries',
    v = .table mark origin entries ∧ w = .table mark origin entries'

theorem Descends.alters (halters : Alters change) (h : Descends made change path v w) :
    ∃ mark origin entries entries',
      v = .table mark origin entries ∧ w = .table mark origin entries' := by
  cases h with
  | here h => exact halters _ _ h
  | make | enter | enterLast => exact ⟨_, _, _, _, rfl, rfl⟩

theorem Descends.mark_eq (halters : Alters change) (h : Descends made change path v w) :
    w.mark = v.mark := by
  obtain ⟨mark, origin, entries, entries', rfl, rfl⟩ := h.alters halters
  rfl

theorem Descends.exists_change (h : Descends made change path v w) : ∃ v w, change v = some w := by
  induction h with
  | here h => exact ⟨_, _, h⟩
  | make _ _ ih | enter _ _ _ ih | enterLast _ _ _ ih => exact ih

theorem alters_addEntry (single : Bool) (key : String) (child : Value) :
    Alters (addEntry single key child) := by
  intro v w h
  cases adds_of_addEntry h with
  | intro => exact ⟨_, _, _, _, rfl, rfl⟩

theorem alters_insert (path : List Key) (child : Value) : Alters (insert path child) := by
  intro v w h
  obtain ⟨key, -, h⟩ := exists_descends_of_insert h
  exact h.alters (alters_addEntry _ _ _)

theorem alters_openTable (mark : Nat) (key : String) : Alters (openTable mark key) := by
  intro v w h
  cases opens_of_openTable h with
  | make | complete => exact ⟨_, _, _, _, rfl, rfl⟩

theorem alters_openTables (mark : Nat) (key : String) : Alters (openTables mark key) := by
  intro v w h
  cases opensMore_of_openTables h with
  | make | more => exact ⟨_, _, _, _, rfl, rfl⟩

end Value

/-- What one statement does to a draft. -/
inductive Draft.Adds : Draft → Statement → Draft → Prop where
  | header {d : Draft} {mark : Nat} {path : List Key} {key : Key} {root : Value}
    (hkey : path.getLast? = some key)
    (h : Value.Descends .implied (Value.openTable mark key.text) path.dropLast d.root root) :
    Adds d (.header mark path) ⟨root, path⟩
  | doubleHeader {d : Draft} {mark : Nat} {path : List Key} {key : Key} {root : Value}
    (hkey : path.getLast? = some key)
    (h : Value.Descends .implied (Value.openTables mark key.text) path.dropLast d.root root) :
    Adds d (.doubleHeader mark path) ⟨root, path⟩
  | assign {d : Draft} {path : List Key} {v root : Value}
    (h : Value.Descends .implied (Value.insert path v) d.under d.root root) :
    Adds d (.assign path v) ⟨root, d.under⟩

theorem Draft.adds_of_add {d d' : Draft} {s : Statement} (h : d.add s = some d') : Adds d s d' := by
  cases s with
  | header mark path =>
    obtain ⟨key, hkey, h⟩ := Option.bind_eq_some_iff.mp h
    obtain ⟨root, hroot, h⟩ := Option.bind_eq_some_iff.mp h
    cases h
    exact .header hkey (Value.descends_of_descend hroot)
  | doubleHeader mark path =>
    obtain ⟨key, hkey, h⟩ := Option.bind_eq_some_iff.mp h
    obtain ⟨root, hroot, h⟩ := Option.bind_eq_some_iff.mp h
    cases h
    exact .doubleHeader hkey (Value.descends_of_descend hroot)
  | assign path v =>
    obtain ⟨root, hroot, h⟩ := Option.bind_eq_some_iff.mp h
    cases h
    exact .assign (Value.descends_of_descend hroot)

end DocLaunch.Toml
