namespace DocLaunch

/-- Entries by rising key, code point by code point. -/
structure StringTable where
  entries : List (String × String)
  sorted : entries.Pairwise fun a b => a.1 < b.1
  deriving DecidableEq

namespace StringTable

def empty : StringTable := ⟨[], .nil⟩

instance : Inhabited StringTable := ⟨empty⟩

/-- Put an entry in its place, in the stead of one with the same key. -/
def insertEntry (key value : String) : List (String × String) → List (String × String)
  | [] => [(key, value)]
  | e :: rest =>
    if key < e.1 then (key, value) :: e :: rest
    else if key = e.1 then (key, value) :: rest
    else e :: insertEntry key value rest

theorem mem_insertEntry {key value : String} {x : String × String} {entries}
    (h : x ∈ insertEntry key value entries) : x = (key, value) ∨ x ∈ entries := by
  induction entries with
  | nil => exact .inl (List.mem_singleton.mp h)
  | cons e rest ih =>
    unfold insertEntry at h
    split at h
    · exact List.mem_cons.mp h
    · split at h
      · exact (List.mem_cons.mp h).imp_right (List.mem_cons_of_mem _)
      · obtain rfl | h := List.mem_cons.mp h
        · exact .inr List.mem_cons_self
        · exact (ih h).imp_right (List.mem_cons_of_mem _)

theorem pairwise_insertEntry (key value : String) {entries : List (String × String)}
    (h : entries.Pairwise fun a b => a.1 < b.1) :
    (insertEntry key value entries).Pairwise fun a b => a.1 < b.1 := by
  induction entries with
  | nil => exact List.pairwise_singleton _ _
  | cons e rest ih =>
    obtain ⟨he, hrest⟩ := List.pairwise_cons.mp h
    unfold insertEntry
    split
    · next hlt =>
      refine List.pairwise_cons.mpr ⟨fun x hx => ?_, h⟩
      obtain rfl | hx := List.mem_cons.mp hx
      · exact hlt
      · exact String.lt_trans hlt (he x hx)
    · next hge =>
      split
      · next heq => exact List.pairwise_cons.mpr ⟨fun x hx => heq ▸ he x hx, hrest⟩
      · next hne =>
        refine List.pairwise_cons.mpr ⟨fun x hx => ?_, ih hrest⟩
        obtain rfl | hx := mem_insertEntry hx
        · exact Std.lt_of_le_of_ne (String.not_lt.mp hge) (Ne.symm hne)
        · exact he x hx

def insert (t : StringTable) (key value : String) : StringTable :=
  ⟨insertEntry key value t.entries, pairwise_insertEntry key value t.sorted⟩

def get? (t : StringTable) (key : String) : Option String :=
  t.entries.lookup key

/-- Later entries win over earlier ones. -/
def insertAll (t : StringTable) (entries : List (String × String)) : StringTable :=
  entries.foldl (fun t e => t.insert e.1 e.2) t

def ofList (entries : List (String × String)) : StringTable :=
  empty.insertAll entries

end StringTable
end DocLaunch
