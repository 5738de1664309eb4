import DocLaunch.Proofs.Toml.Steps

namespace DocLaunch.Toml

/-- No table within the value holds a key twice. -/
inductive Value.DistinctKeys : Value → Prop where
  | scalar (mark : Nat) (s : Scalar) : DistinctKeys (.scalar mark s)
  | array {mark : Nat} {items : List Value} (h : ∀ v ∈ items, DistinctKeys v) :
    DistinctKeys (.array mark items)
  | tables {mark : Nat} {items : List Value} (h : ∀ v ∈ items, DistinctKeys v) :
    DistinctKeys (.tables mark items)
  | table {mark : Nat} {origin : Origin} {entries : Entries}
    (hn : (entries.map Prod.fst).Nodup) (h : ∀ e ∈ entries, DistinctKeys e.2) :
    DistinctKeys (.table mark origin entries)

namespace Value

variable {v w child : Value} {entries : Entries} {mark : Nat} {origin : Origin} {key : String}

theorem distinctKeys_emptyTable (mark : Nat) (origin : Origin) :
    (Value.table mark origin []).DistinctKeys :=
  .table .nil nofun

theorem DistinctKeys.keys_nodup (hv : (Value.table mark origin entries).DistinctKeys) :
    (entries.map Prod.fst).Nodup := by
  cases hv with
  | table hn _ => exact hn

theorem DistinctKeys.of_lookup (hv : (Value.table mark origin entries).DistinctKeys)
    (h : entries.lookup key = some child) : child.DistinctKeys := by
  cases hv with
  | table _ hentries => exact hentries _ (mem_of_lookup h)

theorem DistinctKeys.append (hv : (Value.table mark origin entries).DistinctKeys)
    (hkey : entries.lookup key = none) (hchild : child.DistinctKeys) :
    (Value.table mark origin (entries ++ [(key, child)])).DistinctKeys := by
  cases hv with
  | table hn hentries =>
    refine .table ?_ fun e he => ?_
    · rw [List.map_append, List.nodup_append]
      refine ⟨hn, List.nodup_singleton key, fun a ha b hb hab => ?_⟩
      obtain rfl : b = key := List.mem_singleton.mp hb
      exact lookup_eq_none_iff_key.mp hkey (hab ▸ ha)
    · rcases List.mem_append.mp he with he | he
      · exact hentries e he
      · exact List.mem_singleton.mp he ▸ hchild

theorem DistinctKeys.replace (hv : (Value.table mark origin entries).DistinctKeys)
    (hchild : child.DistinctKeys) :
    (Value.table mark origin (Entries.replace entries key child)).DistinctKeys := by
  cases hv with
  | table hn hentries =>
    have hkeys : (Entries.replace entries key child).map Prod.fst = entries.map Prod.fst := by
      rw [Entries.replace, List.map_map]
      refine List.map_congr_left fun e _ => ?_
      by_cases he : e.1 = key <;> simp [he]
    refine .table (hkeys ▸ hn) fun e he => ?_
    obtain ⟨e', he', rfl⟩ := List.mem_map.mp he
    split
    · exact hchild
    · exact hentries e' he'

theorem DistinctKeys.remove (hv : (Value.table mark origin entries).DistinctKeys) :
    (Value.table mark origin (Entries.remove entries key)).DistinctKeys := by
  cases hv with
  | table hn hentries =>
    exact .table (hn.sublist (List.filter_sublist.map _))
      fun e he => hentries e (List.mem_of_mem_filter he)

theorem lookup_remove (entries : Entries) (key : String) :
    (Entries.remove entries key).lookup key = none := by
  rw [List.lookup_eq_none_iff]
  intro e he
  have hne := (List.mem_filter.mp he).2
  rw [bne_iff_ne] at hne ⊢
  exact hne.symm

theorem Descends.distinctKeys {made : Origin} {change : Value → Option Value} {path : List Key}
    (hchange : ∀ v w, v.DistinctKeys → change v = some w → w.DistinctKeys)
    (h : Descends made change path v w) (hv : v.DistinctKeys) : w.DistinctKeys := by
  induction h with
  | here h => exact hchange _ _ hv h
  | make hkey _ ih => exact hv.append hkey (ih (distinctKeys_emptyTable _ _))
  | enter hkey _ _ ih => exact hv.replace (ih (hv.of_lookup hkey))
  | enterLast hkey hlast _ ih =>
    cases hv.of_lookup hkey with
    | tables hitems =>
      refine hv.replace (.tables (List.forall_mem_append.mpr ⟨fun v hv => ?_, ?_⟩))
      · exact hitems v (List.dropLast_subset _ hv)
      · exact List.forall_mem_singleton.mpr (ih (hitems _ (List.mem_of_getLast? hlast)))

theorem DistinctKeys.addEntry {single : Bool} (hchild : child.DistinctKeys)
    (hv : v.DistinctKeys) (h : Value.addEntry single key child v = some w) : w.DistinctKeys := by
  cases adds_of_addEntry h with
  | intro hkey => exact hv.append hkey hchild

theorem DistinctKeys.insert {path : List Key} (hchild : child.DistinctKeys) (hv : v.DistinctKeys)
    (h : Value.insert path child v = some w) : w.DistinctKeys := by
  obtain ⟨key, -, h⟩ := exists_descends_of_insert h
  exact h.distinctKeys (fun _ _ => hchild.addEntry) hv

theorem distinctKeys_ofPairs {pairs : List (List Key × Value)}
    (hpairs : ∀ p ∈ pairs, p.2.DistinctKeys) (h : ofPairs mark pairs = some v) :
    v.DistinctKeys :=
  foldlM_induction (P := fun _ t => t.DistinctKeys)
    (fun _ p _ _ hp ht h => (hpairs p hp).insert ht h) (distinctKeys_emptyTable mark .braces) h

theorem DistinctKeys.openTable (hv : v.DistinctKeys) (h : Value.openTable mark key v = some w) :
    w.DistinctKeys := by
  cases opens_of_openTable h with
  | make hkey => exact hv.append hkey (distinctKeys_emptyTable _ _)
  | complete hkey =>
    refine hv.remove.append (lookup_remove _ key) ?_
    cases hv.of_lookup hkey with
    | table hn hentries => exact .table hn hentries

theorem DistinctKeys.openTables (hv : v.DistinctKeys) (h : Value.openTables mark key v = some w) :
    w.DistinctKeys := by
  have hnew := List.forall_mem_singleton.mpr (distinctKeys_emptyTable mark .header)
  cases opensMore_of_openTables h with
  | make hkey => exact hv.append hkey (.tables hnew)
  | more hkey =>
    cases hv.of_lookup hkey with
    | tables hitems => exact hv.replace (.tables (List.forall_mem_append.mpr ⟨hitems, hnew⟩))

end Value

section Reading

variable {item : List Char → Option (Value × List Char)} {cs rest : List Char} {n : Nat}

theorem TakesItems.distinctKeys {items : List Value}
    (hitem : ∀ cs v rest, item cs = some (v, rest) → v.DistinctKeys)
    (h : TakesItems item cs items rest) : ∀ v ∈ items, v.DistinctKeys := by
  induction h with
  | none => exact List.forall_mem_nil _
  | last hv => exact List.forall_mem_singleton.mpr (hitem _ _ _ hv)
  | comma hv _ _ ih => exact List.forall_mem_cons.mpr ⟨hitem _ _ _ hv, ih⟩

theorem distinctKeys_of_readPair {p : List Key × Value}
    (hitem : ∀ cs v rest, item cs = some (v, rest) → v.DistinctKeys)
    (h : readPair item cs = some (p, rest)) : p.2.DistinctKeys := by
  obtain ⟨more, -, hv⟩ := readPair_eq_some h
  exact hitem _ _ _ hv

theorem TakesPairs.distinctKeys {pairs : List (List Key × Value)}
    (hitem : ∀ cs v rest, item cs = some (v, rest) → v.DistinctKeys)
    (h : TakesPairs item cs pairs rest) : ∀ p ∈ pairs, p.2.DistinctKeys := by
  induction h with
  | last hp => exact List.forall_mem_singleton.mpr (distinctKeys_of_readPair hitem hp)
  | comma hp _ _ ih => exact List.forall_mem_cons.mpr ⟨distinctKeys_of_readPair hitem hp, ih⟩

theorem distinctKeys_of_readValue {v : Value} (h : readValue n cs = some (v, rest)) :
    v.DistinctKeys := by
  induction n generalizing cs v rest with
  | zero =>
    cases takesValue_of_readValue h with
    | scalar => exact .scalar _ _
  | succ n ih =>
    have ih : ∀ cs v rest, readValue n cs = some (v, rest) → v.DistinctKeys := fun _ _ _ => ih
    cases takesValue_of_readValue h with
    | scalar => exact .scalar _ _
    | array hitems => exact .array (hitems.distinctKeys ih)
    | braces hbraces hv =>
      refine Value.distinctKeys_ofPairs ?_ hv
      cases takesBraces_of_readBraces hbraces with
      | empty => exact List.forall_mem_nil _
      | pairs hpairs => exact hpairs.distinctKeys ih

end Reading

def Statement.DistinctKeys : Statement → Prop
  | assign _ v => v.DistinctKeys
  | header _ _ | doubleHeader _ _ => True

theorem distinctKeys_of_readStatement {cs rest : List Char} {s : Statement}
    (h : readStatement cs = some (s, rest)) : s.DistinctKeys := by
  cases takesStatement_of_readStatement h with
  | header | doubleHeader => trivial
  | assign hpair => exact distinctKeys_of_readPair (fun _ _ _ => distinctKeys_of_readValue) hpair

theorem TakesLines.distinctKeys {cs : List Char} {ss : List Statement} (h : TakesLines cs ss) :
    ∀ s ∈ ss, s.DistinctKeys := by
  induction h with
  | done => exact List.forall_mem_nil _
  | skip _ _ ih => exact ih
  | line hs _ _ ih => exact List.forall_mem_cons.mpr ⟨distinctKeys_of_readStatement hs, ih⟩

theorem Draft.distinctKeys_add {d d' : Draft} {s : Statement} (hs : s.DistinctKeys)
    (hd : d.root.DistinctKeys) (h : d.add s = some d') : d'.root.DistinctKeys := by
  cases adds_of_add h with
  | header _ hroot => exact hroot.distinctKeys (fun _ _ => Value.DistinctKeys.openTable) hd
  | doubleHeader _ hroot => exact hroot.distinctKeys (fun _ _ => Value.DistinctKeys.openTables) hd
  | assign hroot => exact hroot.distinctKeys (fun _ _ hv => Value.DistinctKeys.insert hs hv) hd

theorem Value.distinctKeys_ofStatements? {ss : List Statement} {v : Value}
    (hss : ∀ s ∈ ss, s.DistinctKeys) (h : Value.ofStatements? ss = some v) : v.DistinctKeys := by
  obtain ⟨d, hfold, rfl⟩ := Option.map_eq_some_iff.mp h
  exact foldlM_induction (P := fun _ d => d.root.DistinctKeys)
    (fun _ s _ _ hs hd h => Draft.distinctKeys_add (hss s hs) hd h)
    (distinctKeys_emptyTable 0 .header) hfold

theorem Value.distinctKeys_ofText? {cs : List Char} {v : Value} (h : Value.ofText? cs = some v) :
    v.DistinctKeys := by
  obtain ⟨ss, hss, h⟩ := Option.bind_eq_some_iff.mp h
  exact distinctKeys_ofStatements? (takesLines_of_readStatements hss).distinctKeys h

end DocLaunch.Toml
