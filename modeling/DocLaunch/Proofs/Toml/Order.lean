import Mathlib.Order.Interval.Set.Basic
import DocLaunch.Proofs.Toml.Keys

namespace DocLaunch.Toml

/-- Marks of one place after the other, all before the last `n` characters. -/
def Falling (n : Nat) (marks : List Nat) : Prop :=
  (marks ++ [n]).Pairwise (· > ·)

section Falling

variable {n n' m : Nat} {marks marks' : List Nat}

theorem falling_nil (n : Nat) : Falling n [] :=
  List.pairwise_singleton ..

theorem falling_iff : Falling n marks ↔ marks.Pairwise (· > ·) ∧ ∀ m ∈ marks, n < m := by
  simp [Falling, List.pairwise_append]

theorem Falling.lt (h : Falling n marks) (hm : m ∈ marks) : n < m :=
  (falling_iff.mp h).2 m hm

theorem Falling.mono (h : Falling n marks) (hle : n' ≤ n) : Falling n' marks :=
  falling_iff.mpr ⟨(falling_iff.mp h).1, fun _ hm => hle.trans_lt (h.lt hm)⟩

theorem Falling.sublist (h : Falling n marks) (hsub : marks'.Sublist marks) : Falling n marks' :=
  falling_iff.mpr ⟨(falling_iff.mp h).1.sublist hsub, fun _ hm => h.lt (hsub.subset hm)⟩

theorem Falling.append (h : Falling n marks) (hm : m ∈ Set.Ioc n' n) :
    Falling n' (marks ++ [m]) := by
  rw [falling_iff, List.pairwise_append]
  refine ⟨⟨(falling_iff.mp h).1, List.pairwise_singleton .., ?_⟩, ?_⟩
  · intro a ha b hb
    rw [List.mem_singleton.mp hb]
    exact hm.2.trans_lt (h.lt ha)
  · intro a ha
    rcases List.mem_append.mp ha with ha | ha
    · exact (hm.1.trans_le hm.2).trans (h.lt ha)
    · exact List.mem_singleton.mp ha ▸ hm.1

theorem Falling.cons (h : Falling n marks) (hm : n < m) (hlt : ∀ a ∈ marks, a < m) :
    Falling n (m :: marks) := by
  rw [falling_iff] at h ⊢
  exact ⟨List.pairwise_cons.mpr ⟨hlt, h.1⟩, List.forall_mem_cons.mpr ⟨hm, h.2⟩⟩

end Falling

/-- Everything within the value stands in order before the last `n` characters of the text. -/
inductive Value.InOrder (n : Nat) : Value → Prop where
  | scalar (mark : Nat) (s : Scalar) : InOrder n (.scalar mark s)
  | array {mark : Nat} {items : List Value} (hmarks : Falling n (items.map Value.mark))
    (h : ∀ v ∈ items, InOrder n v) : InOrder n (.array mark items)
  | tables {mark : Nat} {items : List Value} (hmarks : Falling n (items.map Value.mark))
    (h : ∀ v ∈ items, InOrder n v) : InOrder n (.tables mark items)
  | table {mark : Nat} {origin : Origin} {entries : Entries}
    (hmarks : Falling n (entries.map fun e => e.2.mark)) (h : ∀ e ∈ entries, InOrder n e.2) :
    InOrder n (.table mark origin entries)

/-- A path of keys is there, in an array of tables below the last of them. -/
inductive Value.Reaches : List Key → Value → Prop where
  | here (v : Value) : Reaches [] v
  | step {key : Key} {path : List Key} {mark : Nat} {origin : Origin} {entries : Entries}
    {child : Value} (hkey : entries.lookup key.text = some child) (h : Reaches path child) :
    Reaches (key :: path) (.table mark origin entries)
  | last {key : Key} {path : List Key} {mark m : Nat} {origin : Origin} {entries : Entries}
    {items : List Value} {last : Value} (hkey : entries.lookup key.text = some (.tables m items))
    (hlast : items.getLast? = some last) (h : Reaches path last) :
    Reaches (key :: path) (.table mark origin entries)

namespace Value

variable {v w child : Value} {entries : Entries} {items : List Value} {mark n n' : Nat}
  {origin made : Origin} {key : String} {change : Value → Option Value} {path : List Key}

theorem inOrder_emptyTable (n mark : Nat) (origin : Origin) :
    (Value.table mark origin []).InOrder n :=
  .table (falling_nil n) nofun

theorem InOrder.mono (hv : v.InOrder n) (hle : n' ≤ n) : v.InOrder n' := by
  induction hv with
  | scalar mark s => exact .scalar mark s
  | array hmarks _ ih => exact .array (hmarks.mono hle) ih
  | tables hmarks _ ih => exact .tables (hmarks.mono hle) ih
  | table hmarks _ ih => exact .table (hmarks.mono hle) ih

theorem InOrder.of_lookup (hv : (Value.table mark origin entries).InOrder n)
    (h : entries.lookup key = some child) : child.InOrder n := by
  cases hv with
  | table _ hentries => exact hentries _ (mem_of_lookup h)

theorem InOrder.append (hv : (Value.table mark origin entries).InOrder n)
    (hmark : child.mark ∈ Set.Ioc n' n) (hchild : child.InOrder n') :
    (Value.table mark origin (entries ++ [(key, child)])).InOrder n' := by
  cases hv with
  | table hmarks hentries =>
    refine .table ?_ fun e he => ?_
    · rw [List.map_append]
      exact hmarks.append hmark
    · rcases List.mem_append.mp he with he | he
      · exact (hentries e he).mono (hmark.1.trans_le hmark.2).le
      · exact List.mem_singleton.mp he ▸ hchild

theorem InOrder.replace (hv : (Value.table mark origin entries).InOrder n) (hle : n' ≤ n)
    (hn : (entries.map Prod.fst).Nodup) (hkey : entries.lookup key = some v)
    (hmark : child.mark = v.mark) (hchild : child.InOrder n') :
    (Value.table mark origin (Entries.replace entries key child)).InOrder n' := by
  cases hv with
  | table hmarks hentries =>
    -- The key stands in one place only, so no other mark changes.
    have hsame : (Entries.replace entries key child).map (fun e => e.2.mark) =
        entries.map fun e => e.2.mark := by
      rw [Entries.replace, List.map_map]
      refine List.map_congr_left fun e he => ?_
      by_cases hname : e.1 = key
      · have hfound := (lookup_eq_some_iff_mem hn).mpr he
        rw [hname, hkey] at hfound
        obtain rfl := Option.some.inj hfound
        rw [Function.comp, if_pos hname]
        exact hmark
      · rw [Function.comp, if_neg hname]
    refine .table (hsame ▸ hmarks.mono hle) fun e he => ?_
    obtain ⟨e', he', rfl⟩ := List.mem_map.mp he
    split
    · exact hchild
    · exact (hentries e' he').mono hle

theorem InOrder.remove (hv : (Value.table mark origin entries).InOrder n) :
    (Value.table mark origin (Entries.remove entries key)).InOrder n := by
  cases hv with
  | table hmarks hentries =>
    exact .table (hmarks.sublist (List.filter_sublist.map _))
      fun e he => hentries e (List.mem_of_mem_filter he)

theorem lookup_replace (h : entries.lookup key = some v) :
    (Entries.replace entries key child).lookup key = some child := by
  induction entries with
  | nil => cases h
  | cons e entries ih =>
    rw [Entries.replace, List.map_cons]
    by_cases he : e.1 = key
    · rw [if_pos he]
      exact lookup_cons_self (key, child)
    · rw [if_neg he, lookup_cons_of_ne (Ne.symm he)]
      rw [lookup_cons_of_ne (Ne.symm he)] at h
      exact ih h

theorem Descends.reaches {path' : List Key} (h : Descends made change path v w)
    (hchange : ∀ v w, change v = some w → w.Reaches path') : w.Reaches (path ++ path') := by
  induction h with
  | here h => exact hchange _ _ h
  | @make key path mark origin entries child hkey _ ih =>
    exact .step (lookup_append_singleton_self (e := (key.text, child)) hkey) ih
  | enter hkey _ _ ih => exact .step (lookup_replace hkey) ih
  | enterLast hkey _ _ ih => exact .last (lookup_replace hkey) List.getLast?_concat ih

theorem Reaches.lookup_ne_none {first : Key}
    (h : (Value.table mark origin entries).Reaches (first :: path)) :
    entries.lookup first.text ≠ none := by
  cases h with
  | step hkey | last hkey =>
    rw [hkey]
    exact Option.some_ne_none _

theorem Reaches.enter {first : Key} {m : Nat} {o : Origin} {es : Entries}
    (h : (Value.table mark origin entries).Reaches (first :: path))
    (hkey : entries.lookup first.text = some (.table m o es)) :
    (Value.table m o es).Reaches path := by
  cases h with
  | step hfound h =>
    rw [hkey] at hfound
    cases hfound
    exact h
  | last hfound =>
    rw [hkey] at hfound
    cases hfound

theorem Reaches.enterLast {first : Key} {m : Nat} {last : Value}
    (h : (Value.table mark origin entries).Reaches (first :: path))
    (hkey : entries.lookup first.text = some (.tables m items))
    (hlast : items.getLast? = some last) : last.Reaches path := by
  cases h with
  | step hfound h =>
    rw [hkey] at hfound
    cases hfound
    cases h
    exact .here last
  | last hfound hlast' h =>
    rw [hkey] at hfound
    cases hfound
    rw [hlast] at hlast'
    cases hlast'
    exact h

/--
Following a path keeps the order: what is new begins after all that was there, unless the path is
there already and nothing on the way is new.
-/
theorem Descends.inOrder (h : Descends made change path v w) (hle : n' ≤ n)
    (hpath : v.Reaches path ∨ ∀ key ∈ path, key.mark ∈ Set.Ioc n' n)
    (halters : Alters change)
    (hchange : ∀ v w, v.DistinctKeys → v.InOrder n → change v = some w → w.InOrder n')
    (hd : v.DistinctKeys) (hv : v.InOrder n) : w.InOrder n' := by
  induction h with
  | here h => exact hchange _ _ hd hv h
  | make hkey h ih =>
    rcases hpath with hpath | hpath
    · exact absurd hkey hpath.lookup_ne_none
    · obtain ⟨hfirst, hpath⟩ := List.forall_mem_cons.mp hpath
      refine hv.append ?_ (ih (.inr hpath) (distinctKeys_emptyTable _ _) (inOrder_emptyTable ..))
      rw [h.mark_eq halters]
      exact hfirst
  | enter hkey _ h ih =>
    refine hv.replace hle hd.keys_nodup hkey (h.mark_eq halters)
      (ih ?_ (hd.of_lookup hkey) (hv.of_lookup hkey))
    exact hpath.imp (fun h => h.enter hkey) fun h => (List.forall_mem_cons.mp h).2
  | @enterLast first path mark m origin entries items last child hkey hlast h ih =>
    have hmem := List.mem_of_getLast? hlast
    have hsplit := List.dropLast_append_getLast? last hlast
    have hitems := hv.of_lookup hkey
    have hdistinct := hd.of_lookup hkey
    refine hv.replace hle hd.keys_nodup hkey rfl ?_
    cases hitems with
    | tables hmarks hitems =>
    cases hdistinct with
    | tables hdistinct =>
    refine .tables ?_ fun v hv => ?_
    · have hsame := h.mark_eq halters
      rw [← hsplit] at hmarks
      rw [List.map_append] at hmarks ⊢
      rw [List.map_singleton, hsame]
      exact hmarks.mono hle
    · rcases List.mem_append.mp hv with hv | hv
      · exact (hitems v (List.dropLast_subset items hv)).mono hle
      · rw [List.mem_singleton.mp hv]
        refine ih ?_ (hdistinct last hmem) (hitems last hmem)
        exact hpath.imp (fun h => h.enterLast hkey hlast) fun h => (List.forall_mem_cons.mp h).2

section Changes

variable {single : Bool}

theorem InOrder.addEntry (hmark : child.mark ∈ Set.Ioc n' n) (hchild : child.InOrder n')
    (hv : v.InOrder n) (h : Value.addEntry single key child v = some w) : w.InOrder n' := by
  cases adds_of_addEntry h with
  | intro => exact hv.append hmark hchild

theorem InOrder.insert (hpath : ∀ key ∈ path, key.mark ∈ Set.Ioc n' n)
    (hmark : child.mark ∈ Set.Ioc n' n) (hchild : child.InOrder n') (hd : v.DistinctKeys)
    (hv : v.InOrder n) (h : Value.insert path child v = some w) : w.InOrder n' := by
  obtain ⟨key, -, h⟩ := exists_descends_of_insert h
  have hfront : ∀ key ∈ path.dropLast, key.mark ∈ Set.Ioc n' n :=
    fun key hkey => hpath key (List.dropLast_subset path hkey)
  exact h.inOrder (hmark.1.trans_le hmark.2).le (.inr hfront) (alters_addEntry _ _ _)
    (fun _ _ _ hv h => hchild.addEntry hmark hv h) hd hv

theorem InOrder.openTable (hmark : mark ∈ Set.Ioc n' n) (hv : v.InOrder n)
    (h : Value.openTable mark key v = some w) : w.InOrder n' := by
  cases opens_of_openTable h with
  | make => exact hv.append hmark (inOrder_emptyTable ..)
  | complete hkey =>
    refine hv.remove.append hmark ?_
    cases (hv.of_lookup hkey).mono (hmark.1.trans_le hmark.2).le with
    | table hmarks hentries => exact .table hmarks hentries

theorem reaches_openTable {key : Key} (h : Value.openTable mark key.text v = some w) :
    w.Reaches [key] := by
  cases opens_of_openTable h with
  | make hkey => exact .step (lookup_append_singleton_self (e := (key.text, _)) hkey) (.here _)
  | complete =>
    exact .step (lookup_append_singleton_self (e := (key.text, _)) (lookup_remove _ _)) (.here _)

theorem InOrder.openTables (hmark : mark ∈ Set.Ioc n' n) (hd : v.DistinctKeys) (hv : v.InOrder n)
    (h : Value.openTables mark key v = some w) : w.InOrder n' := by
  have hnew := List.forall_mem_singleton.mpr (inOrder_emptyTable n' mark .header)
  cases opensMore_of_openTables h with
  | make =>
    refine hv.append hmark (.tables ?_ hnew)
    exact (falling_nil n).append hmark
  | more hkey =>
    have hle := (hmark.1.trans_le hmark.2).le
    refine hv.replace hle hd.keys_nodup hkey rfl ?_
    cases hv.of_lookup hkey with
    | tables hmarks hitems =>
      refine .tables ?_ (List.forall_mem_append.mpr ⟨fun v hv => (hitems v hv).mono hle, hnew⟩)
      rw [List.map_append]
      exact hmarks.append hmark

theorem reaches_openTables {key : Key} (h : Value.openTables mark key.text v = some w) :
    w.Reaches [key] := by
  cases opensMore_of_openTables h with
  | make hkey => exact .step (lookup_append_singleton_self (e := (key.text, _)) hkey) (.here _)
  | more hkey => exact .step (lookup_replace hkey) (.here _)

end Changes

end Value

end DocLaunch.Toml
