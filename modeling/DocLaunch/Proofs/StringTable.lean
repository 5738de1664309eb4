import Mathlib.Data.List.Nodup
import Mathlib.Data.List.Perm.Basic
import DocLaunch.StringTable

namespace DocLaunch

section Entries

variable {α β : Type} {entries entries' : List (String × α)} {key : String} {v : α}

theorem lookup_eq_none_iff_key :
    entries.lookup key = none ↔ key ∉ entries.map Prod.fst := by
  rw [List.lookup_eq_none_iff, List.mem_map]
  constructor
  · rintro h ⟨e, he, rfl⟩
    simpa using h e he
  · intro h e he
    rw [bne_iff_ne]
    rintro rfl
    exact h ⟨e, he, rfl⟩

theorem mem_of_lookup (h : entries.lookup key = some v) : (key, v) ∈ entries := by
  obtain ⟨l, l', rfl, -⟩ := List.lookup_eq_some_iff.mp h
  exact List.mem_append_right _ List.mem_cons_self

theorem lookup_cons_self (e : String × α) : (e :: entries).lookup e.1 = some e.2 := by
  rw [List.lookup_cons, beq_self_eq_true]

theorem lookup_cons_of_ne {e : String × α} (h : key ≠ e.1) :
    (e :: entries).lookup key = entries.lookup key := by
  rw [List.lookup_cons, beq_eq_false_iff_ne.mpr h]

theorem lookup_append_singleton_self {e : String × α} (h : entries.lookup e.1 = none) :
    (entries ++ [e]).lookup e.1 = some e.2 := by
  rw [List.lookup_append, h, Option.none_or, lookup_cons_self]

theorem lookup_append_singleton_of_ne {e : String × α} (h : key ≠ e.1) :
    (entries ++ [e]).lookup key = entries.lookup key := by
  rw [List.lookup_append, lookup_cons_of_ne h, List.lookup_nil, Option.or_none]

theorem lookup_eq_some_iff_mem (hn : (entries.map Prod.fst).Nodup) :
    entries.lookup key = some v ↔ (key, v) ∈ entries := by
  refine ⟨mem_of_lookup, fun h => ?_⟩
  induction entries with
  | nil => cases h
  | cons e entries ih =>
    obtain ⟨hfresh, hn⟩ := List.nodup_cons.mp hn
    rcases List.mem_cons.mp h with rfl | h
    · exact lookup_cons_self (key, v)
    · have hne : key ≠ e.1 := by
        rintro rfl
        exact hfresh (List.mem_map.mpr ⟨_, h, rfl⟩)
      rw [lookup_cons_of_ne hne]
      exact ih hn h

theorem keys_filterMap_sublist {name : β → String} {item? : β → Option (String × α)} {l : List β}
    (hentry : ∀ b ∈ l, ∀ e, item? b = some e → e.1 = name b) :
    ((l.filterMap item?).map Prod.fst).Sublist (l.map name) := by
  induction l with
  | nil => exact .slnil
  | cons b l ih =>
    have ih := ih fun b hb => hentry b (List.mem_cons_of_mem _ hb)
    cases he : item? b with
    | none =>
      rw [List.filterMap_cons_none he]
      exact ih.cons _
    | some e =>
      rw [List.filterMap_cons_some he, List.map_cons, List.map_cons,
        hentry b List.mem_cons_self e he]
      exact ih.cons_cons _

theorem lookup_filterMap_eq_none {name : β → String} {item? : β → Option (String × α)}
    {l : List β} (hentry : ∀ b ∈ l, ∀ e, item? b = some e → e.1 = name b)
    (hk : key ∉ l.map name) : (l.filterMap item?).lookup key = none :=
  lookup_eq_none_iff_key.mpr fun hmem => hk ((keys_filterMap_sublist hentry).subset hmem)

/-- A list that is put together from named things has for each name what the thing gives. -/
theorem lookup_filterMap {name : β → String} {item? : β → Option (String × α)} {l : List β}
    {b : β} (hentry : ∀ b ∈ l, ∀ e, item? b = some e → e.1 = name b)
    (hn : (l.map name).Nodup) (hb : b ∈ l) :
    (l.filterMap item?).lookup (name b) = (item? b).map Prod.snd := by
  induction l with
  | nil => cases hb
  | cons c l ih =>
    obtain ⟨hfresh, hn⟩ := List.nodup_cons.mp hn
    have ih := ih (fun b hb => hentry b (List.mem_cons_of_mem _ hb)) hn
    have hhead := hentry c List.mem_cons_self
    rcases List.mem_cons.mp hb with rfl | hb
    · cases he : item? b with
      | none =>
        rw [List.filterMap_cons_none he, Option.map_none]
        exact lookup_filterMap_eq_none (fun c hc => hentry c (List.mem_cons_of_mem _ hc)) hfresh
      | some e =>
        rw [List.filterMap_cons_some he, ← hhead e he]
        exact lookup_cons_self e
    · cases he : item? c with
      | none => rw [List.filterMap_cons_none he, ih hb]
      | some e =>
        have hne : name b ≠ e.1 := by
          rw [hhead e he]
          intro heq
          exact hfresh (heq ▸ List.mem_map.mpr ⟨b, hb, rfl⟩)
        rw [List.filterMap_cons_some he, lookup_cons_of_ne hne, ih hb]

end Entries

namespace StringTable

variable {t t' : StringTable} {key key' value : String}

theorem keys_nodup (t : StringTable) : (t.entries.map Prod.fst).Nodup := by
  rw [List.nodup_iff_pairwise_ne, List.pairwise_map]
  exact t.sorted.imp fun hlt heq => absurd (heq ▸ hlt) (String.lt_irrefl _)

theorem ext_get? (h : ∀ key, t.get? key = t'.get? key) : t = t' := by
  have hmem : ∀ e, e ∈ t.entries ↔ e ∈ t'.entries := by
    rintro ⟨key, value⟩
    rw [← lookup_eq_some_iff_mem t.keys_nodup, ← lookup_eq_some_iff_mem t'.keys_nodup]
    exact Eq.congr_left (h key)
  have hperm : t.entries.Perm t'.entries :=
    (List.perm_ext_iff_of_nodup (List.Nodup.of_map _ t.keys_nodup)
      (List.Nodup.of_map _ t'.keys_nodup)).mpr hmem
  have hentries : t.entries = t'.entries :=
    hperm.eq_of_pairwise
      (fun a b _ _ hab hba => absurd (String.lt_trans hab hba) (String.lt_irrefl _))
      t.sorted t'.sorted
  cases t
  cases t'
  cases hentries
  rfl

theorem lookup_insertEntry_self (entries : List (String × String)) :
    (insertEntry key value entries).lookup key = some value := by
  induction entries with
  | nil => exact lookup_cons_self (key, value)
  | cons e entries ih =>
    unfold insertEntry
    split
    · exact lookup_cons_self (key, value)
    · split
      · exact lookup_cons_self (key, value)
      · next hne => rwa [lookup_cons_of_ne hne]

theorem lookup_insertEntry_of_ne (entries : List (String × String)) (hk : key' ≠ key) :
    (insertEntry key value entries).lookup key' = entries.lookup key' := by
  induction entries with
  | nil => exact lookup_cons_of_ne hk
  | cons e entries ih =>
    unfold insertEntry
    split
    · exact lookup_cons_of_ne hk
    · split
      · next heq => rw [lookup_cons_of_ne hk, lookup_cons_of_ne (heq ▸ hk)]
      · rw [List.lookup_cons, List.lookup_cons, ih]

theorem get?_insert_self : (t.insert key value).get? key = some value :=
  lookup_insertEntry_self t.entries

theorem get?_insert_of_ne (hk : key' ≠ key) : (t.insert key value).get? key' = t.get? key' :=
  lookup_insertEntry_of_ne t.entries hk

theorem get?_empty : empty.get? key = none :=
  rfl

theorem get?_insertAll {entries : List (String × String)} (hn : (entries.map Prod.fst).Nodup) :
    (t.insertAll entries).get? key = (entries.lookup key).or (t.get? key) := by
  induction entries generalizing t with
  | nil => rfl
  | cons e entries ih =>
    obtain ⟨hfresh, hn⟩ := List.nodup_cons.mp hn
    change ((t.insert e.1 e.2).insertAll entries).get? key = _
    rw [ih hn]
    by_cases hk : key = e.1
    · rw [hk, lookup_eq_none_iff_key.mpr hfresh, lookup_cons_self, get?_insert_self]
      rfl
    · rw [get?_insert_of_ne hk, lookup_cons_of_ne hk]

theorem get?_ofList {entries : List (String × String)} (hn : (entries.map Prod.fst).Nodup) :
    (ofList entries).get? key = entries.lookup key := by
  rw [ofList, get?_insertAll hn, get?_empty, Option.or_none]

theorem ofList_entries (t : StringTable) : ofList t.entries = t :=
  ext_get? fun _ => get?_ofList t.keys_nodup

end StringTable
end DocLaunch
