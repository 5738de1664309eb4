import Mathlib.Data.List.Forall2
import DocLaunch.Proofs.Toml.Keys
import DocLaunch.Settings.Decode

namespace DocLaunch

section Lists

variable {α β ε : Type} {f : α → Except ε β}

theorem mapM_eq_ok_iff {l : List α} {r : List β} :
    l.mapM f = .ok r ↔ List.Forall₂ (fun a b => f a = .ok b) l r := by
  induction l generalizing r with
  | nil =>
    rw [List.mapM_nil, List.forall₂_nil_left_iff]
    exact ⟨fun h => (Except.ok.inj h).symm, fun h => h ▸ rfl⟩
  | cons a l ih =>
    rw [List.mapM_cons, List.forall₂_cons_left_iff]
    cases ha : f a with
    | error e => exact ⟨(nomatch ·), fun ⟨_, _, h, _⟩ => nomatch h⟩
    | ok b =>
      change (l.mapM f >>= fun r => .ok (b :: r)) = .ok r ↔ _
      cases hl : l.mapM f with
      | error e =>
        refine ⟨(nomatch ·), fun ⟨_, r, _, h, _⟩ => ?_⟩
        rw [ih.mpr h] at hl
        cases hl
      | ok r' =>
        constructor
        · rintro ⟨⟩
          exact ⟨b, r', rfl, ih.mp hl, rfl⟩
        · rintro ⟨_, r, ⟨⟩, h, rfl⟩
          cases hl.symm.trans (ih.mpr h)
          rfl

theorem forall₂_exists_right {R : α → β → Prop} {l : List α} (h : ∀ a ∈ l, ∃ b, R a b) :
    ∃ r, List.Forall₂ R l r := by
  induction l with
  | nil => exact ⟨[], .nil⟩
  | cons a l ih =>
    obtain ⟨⟨b, hb⟩, h⟩ := List.forall_mem_cons.mp h
    obtain ⟨r, hr⟩ := ih h
    exact ⟨b :: r, .cons hb hr⟩

theorem map_fst_eq {R : α → β → Prop} {l : List (String × α)} {r : List (String × β)}
    (h : List.Forall₂ (fun a b => a.1 = b.1 ∧ R a.2 b.2) l r) :
    l.map Prod.fst = r.map Prod.fst := by
  rw [← List.forall₂_eq_eq_eq, List.forall₂_map_left_iff, List.forall₂_map_right_iff]
  exact h.imp fun _ _ h => h.1

theorem lookup_rel {R : α → β → Prop} {l : List (String × α)} {r : List (String × β)}
    (h : List.Forall₂ (fun a b => a.1 = b.1 ∧ R a.2 b.2) l r) (key : String) :
    Option.Rel R (l.lookup key) (r.lookup key) := by
  induction h with
  | nil => exact .none
  | @cons a b l r hab _ ih =>
    by_cases hk : key = a.1
    · rw [hk, lookup_cons_self, hab.1, lookup_cons_self]
      exact .some hab.2
    · rwa [lookup_cons_of_ne hk, lookup_cons_of_ne (hab.1 ▸ hk)]

end Lists

namespace Toml.Value

inductive IsText : Value → String → Prop where
  | intro (mark : Nat) (s : String) : IsText (.scalar mark (.text s)) s

inductive IsBoolean : Value → Bool → Prop where
  | intro (mark : Nat) (b : Bool) : IsBoolean (.scalar mark (.boolean b)) b

inductive IsTexts : Value → List String → Prop where
  | array (mark : Nat) {items : List Value} {ss : List String} (h : List.Forall₂ IsText items ss) :
    IsTexts (.array mark items) ss
  | tables (mark : Nat) {items : List Value} {ss : List String}
    (h : List.Forall₂ IsText items ss) : IsTexts (.tables mark items) ss

/-- A table of texts, or a date or time, which counts as a table with a single key of its own. -/
inductive IsTable : Value → StringTable → Prop where
  | table (mark : Nat) (origin : Origin) {entries : Entries} {t : StringTable}
    (h : ∀ key, Option.Rel IsText (entries.lookup key) (t.get? key)) :
    IsTable (.table mark origin entries) t
  | moment (mark : Nat) (m : Moment) :
    IsTable (.scalar mark (.moment m)) (.ofList [(momentKey, String.ofList m.toText)])

/-- Tables, arrays, and dates or times can stand for sections. -/
def IsSection : Value → Prop
  | table .. | array .. | tables .. | scalar _ (.moment _) => True
  | scalar .. => False

/-- What a section has for one of its names: by key in a table, by position in an array. -/
def member? (names : List String) (name : String) : Value → Option Value
  | table _ _ entries => entries.lookup name
  | array _ items | tables _ items => items[names.idxOf name]?
  | scalar .. => none

/-- Equal but for places in the document, for how tables were made, and for the order of keys. -/
inductive Same : Value → Value → Prop where
  | scalar (mark mark' : Nat) (s : Scalar) : Same (.scalar mark s) (.scalar mark' s)
  | array (mark mark' : Nat) {items items' : List Value} (h : List.Forall₂ Same items items') :
    Same (.array mark items) (.array mark' items')
  | tables (mark mark' : Nat) {items items' : List Value} (h : List.Forall₂ Same items items') :
    Same (.tables mark items) (.tables mark' items')
  | table (mark mark' : Nat) (origin origin' : Origin) {entries entries' : Entries}
    (h : ∀ key, Option.Rel Same (entries.lookup key) (entries'.lookup key)) :
    Same (.table mark origin entries) (.table mark' origin' entries')

variable {v w : Value} {s s' : String} {b : Bool} {ss : List String} {t : StringTable}

theorem asText_eq_ok_iff : v.asText = .ok s ↔ v.IsText s := by
  constructor
  · intro h
    unfold asText at h
    split at h
    · cases h
      exact .intro _ _
    · cases h
  · rintro ⟨⟩
    rfl

theorem asBoolean_eq_ok_iff : v.asBoolean = .ok b ↔ v.IsBoolean b := by
  constructor
  · intro h
    unfold asBoolean at h
    split at h
    · cases h
      exact .intro _ _
    · cases h
  · rintro ⟨⟩
    rfl

theorem mapM_asText_eq_ok_iff {items : List Value} :
    items.mapM asText = .ok ss ↔ List.Forall₂ IsText items ss := by
  simp only [mapM_eq_ok_iff, asText_eq_ok_iff]

theorem asTexts_eq_ok_iff : v.asTexts = .ok ss ↔ v.IsTexts ss := by
  constructor
  · intro h
    cases v with
    | array mark items => exact .array mark (mapM_asText_eq_ok_iff.mp h)
    | tables mark items => exact .tables mark (mapM_asText_eq_ok_iff.mp h)
    | scalar | table => cases h
  · rintro (⟨_, h⟩ | ⟨_, h⟩) <;> exact mapM_asText_eq_ok_iff.mpr h

theorem IsText.unique (h : v.IsText s) (h' : v.IsText s') : s = s' := by
  cases h
  cases h'
  rfl

theorem rel_isText_unique {v? : Option Value} {s? s'? : Option String}
    (h : Option.Rel IsText v? s?) (h' : Option.Rel IsText v? s'?) : s? = s'? := by
  cases h with
  | none =>
    cases h'
    rfl
  | some h =>
    cases h' with
    | some h' => rw [h.unique h']

theorem mapM_entry_eq_ok_iff {entries : Entries} {es : List (String × String)} :
    (entries.mapM fun e => do return (e.1, ← e.2.asText)) = .ok es ↔
      List.Forall₂ (fun e e' => e.1 = e'.1 ∧ e.2.IsText e'.2) entries es := by
  have hentry : ∀ (e : String × Value) (e' : String × String),
      (do return (e.1, ← e.2.asText) : Except Mismatch _) = .ok e' ↔
        e.1 = e'.1 ∧ e.2.IsText e'.2 := by
    rintro ⟨key, v⟩ ⟨key', s⟩
    rw [← asText_eq_ok_iff]
    cases v.asText with
    | error m => exact ⟨(nomatch ·), (nomatch ·.2)⟩
    | ok s' =>
      change Except.ok (key, s') = .ok (key', s) ↔ _
      rw [Except.ok.injEq, Prod.mk.injEq, Except.ok.injEq]
  simp only [mapM_eq_ok_iff, hentry]

theorem rel_get?_ofList {entries : Entries} {es : List (String × String)}
    (hn : (entries.map Prod.fst).Nodup)
    (hes : List.Forall₂ (fun e e' => e.1 = e'.1 ∧ e.2.IsText e'.2) entries es) (key : String) :
    Option.Rel IsText (entries.lookup key) ((StringTable.ofList es).get? key) := by
  rw [StringTable.get?_ofList (map_fst_eq hes ▸ hn)]
  exact lookup_rel hes key

theorem asTable_eq_ok_iff (hv : v.DistinctKeys) : v.asTable = .ok t ↔ v.IsTable t := by
  cases v with
  | array | tables =>
    refine ⟨(nomatch ·), fun h => ?_⟩
    cases h
  | scalar mark s =>
    constructor
    · intro h
      cases s with
      | moment m =>
        cases h
        exact .moment mark m
      | text | integer | decimal | boolean => cases h
    · rintro ⟨⟩
      rfl
  | table mark origin entries =>
    have hn := hv.keys_nodup
    change (entries.mapM (fun e => do return (e.1, ← e.2.asText)) >>= fun es =>
      Except.ok (ε := Mismatch) (StringTable.ofList es)) = .ok t ↔ _
    constructor
    · intro h
      cases hes : entries.mapM fun e => do return (e.1, ← e.2.asText) with
      | error m =>
        rw [hes] at h
        cases h
      | ok es =>
        rw [hes] at h
        cases h
        exact .table mark origin (rel_get?_ofList hn (mapM_entry_eq_ok_iff.mp hes))
    · rintro (⟨_, _, h⟩)
      obtain ⟨es, hes⟩ : ∃ es : List (String × String),
          List.Forall₂ (fun e e' => e.1 = e'.1 ∧ e.2.IsText e'.2) entries es := by
        refine forall₂_exists_right fun e he => ?_
        have hrel := h e.1
        rw [(lookup_eq_some_iff_mem hn).mpr he] at hrel
        generalize t.get? e.1 = s? at hrel
        cases hrel with
        | @some _ s hs => exact ⟨(e.1, s), rfl, hs⟩
      rw [mapM_entry_eq_ok_iff.mpr hes]
      exact congrArg Except.ok
        (StringTable.ext_get? fun key => rel_isText_unique (rel_get?_ofList hn hes key) (h key))

theorem DistinctKeys.of_member? {names : List String} {name : String} (hv : v.DistinctKeys)
    (h : v.member? names name = some w) : w.DistinctKeys := by
  cases hv with
  | scalar => cases h
  | array hitems => exact hitems w (List.mem_of_getElem? h)
  | tables hitems => exact hitems w (List.mem_of_getElem? h)
  | table hn hentries => exact hentries _ (mem_of_lookup h)

theorem map_fst_zip (names : List String) (items : List Value) :
    (names.zip items).map Prod.fst = names.take items.length := by
  induction names generalizing items with
  | nil => rw [List.zip_nil_left, List.take_nil, List.map_nil]
  | cons name names ih =>
    cases items with
    | nil => rfl
    | cons v items => exact congrArg (name :: ·) (ih items)

theorem lookup_zip {names : List String} {name : String} (h : name ∈ names)
    (items : List Value) : (names.zip items).lookup name = items[names.idxOf name]? := by
  induction names generalizing items with
  | nil => cases h
  | cons first names ih =>
    cases items with
    | nil => rfl
    | cons v items =>
      by_cases hname : name = first
      · rw [List.zip_cons_cons, hname, lookup_cons_self (first, v), List.idxOf_cons_self]
        rfl
      · rw [List.zip_cons_cons, lookup_cons_of_ne (e := (first, v)) hname,
          List.idxOf_cons_ne names (Ne.symm hname),
          ih (List.mem_of_ne_of_mem hname h)]
        rfl

/-- A section has entries with keys of their own, and they are what its names have. -/
theorem exists_entries_of_isSection {names : List String} (shape : Shape) (hv : v.DistinctKeys)
    (hnames : names.Nodup) (h : v.IsSection) :
    ∃ entries : Entries, v.asSection shape names = .ok entries ∧
      (entries.map Prod.fst).Nodup ∧
      ∀ name ∈ names, entries.lookup name = v.member? names name := by
  have hzip : ∀ items : List Value, ((names.zip items).map Prod.fst).Nodup := by
    intro items
    rw [map_fst_zip]
    exact hnames.sublist (List.take_sublist _ _)
  cases v with
  | array mark items => exact ⟨_, rfl, hzip items, fun name hname => lookup_zip hname items⟩
  | tables mark items => exact ⟨_, rfl, hzip items, fun name hname => lookup_zip hname items⟩
  | table mark origin entries => exact ⟨_, rfl, hv.keys_nodup, fun _ _ => rfl⟩
  | scalar mark s =>
    cases s with
    | moment m => exact ⟨[], rfl, .nil, fun _ _ => rfl⟩
    | text | integer | decimal | boolean => exact h.elim

theorem asSection_toOption_eq_none {names : List String} (shape : Shape) (h : ¬ v.IsSection) :
    (v.asSection shape names).toOption = none := by
  cases v with
  | array | tables | table => exact absurd trivial h
  | scalar mark s =>
    cases s with
    | moment => exact absurd trivial h
    | text | integer | decimal | boolean => rfl

theorem Same.isText_iff (h : v.Same w) : v.IsText s ↔ w.IsText s := by
  cases h with
  | scalar mark mark' =>
    constructor <;>
    · rintro ⟨⟩
      exact .intro _ _
  | array | tables | table => exact ⟨(nomatch ·), (nomatch ·)⟩

theorem Same.isBoolean_iff (h : v.Same w) : v.IsBoolean b ↔ w.IsBoolean b := by
  cases h with
  | scalar mark mark' =>
    constructor <;>
    · rintro ⟨⟩
      exact .intro _ _
  | array | tables | table => exact ⟨(nomatch ·), (nomatch ·)⟩

theorem Same.forall₂_isText_iff {items items' : List Value} (h : List.Forall₂ Same items items') :
    List.Forall₂ IsText items ss ↔ List.Forall₂ IsText items' ss := by
  induction h generalizing ss with
  | nil => rfl
  | cons hv _ ih => simp only [List.forall₂_cons_left_iff, ih, hv.isText_iff]

theorem Same.isTexts_iff (h : v.Same w) : v.IsTexts ss ↔ w.IsTexts ss := by
  cases h with
  | scalar | table => exact ⟨(nomatch ·), (nomatch ·)⟩
  | array mark mark' h =>
    constructor
    · rintro (⟨_, hv⟩ | _)
      exact .array mark' ((forall₂_isText_iff h).mp hv)
    · rintro (⟨_, hw⟩ | _)
      exact .array mark ((forall₂_isText_iff h).mpr hw)
  | tables mark mark' h =>
    constructor
    · rintro (_ | ⟨_, hv⟩)
      exact .tables mark' ((forall₂_isText_iff h).mp hv)
    · rintro (_ | ⟨_, hw⟩)
      exact .tables mark ((forall₂_isText_iff h).mpr hw)

theorem Same.rel_isText_iff {v? w? : Option Value} {s? : Option String}
    (h : Option.Rel Same v? w?) : Option.Rel IsText v? s? ↔ Option.Rel IsText w? s? := by
  cases h with
  | none => rfl
  | some h =>
    constructor
    · rintro ⟨hv⟩
      exact .some (h.isText_iff.mp hv)
    · rintro ⟨hw⟩
      exact .some (h.isText_iff.mpr hw)

theorem Same.isTable_iff (h : v.Same w) : v.IsTable t ↔ w.IsTable t := by
  cases h with
  | array | tables => exact ⟨(nomatch ·), (nomatch ·)⟩
  | scalar mark mark' =>
    constructor <;>
    · rintro ⟨⟩
      exact .moment _ _
  | table mark mark' origin origin' h =>
    constructor
    · rintro (⟨_, _, hv⟩ | _)
      exact .table mark' origin' fun key => (rel_isText_iff (h key)).mp (hv key)
    · rintro (⟨_, _, hw⟩ | _)
      exact .table mark origin fun key => (rel_isText_iff (h key)).mpr (hw key)

end Toml.Value
end DocLaunch
