import DocLaunch.Proofs.StringTable
import DocLaunch.Settings.Field

namespace DocLaunch

/-- A part of a record: its name, how to get and to set it, and how a value is read for it. -/
structure Part (V σ : Type) where
  name : String
  Content : Type
  get : σ → Content
  set : Content → σ → σ
  read : V → Option Content

namespace Part

variable {V σ : Type} {parts : List (Part V σ)} {entries : List (String × V)} {s r : σ}

def find? (parts : List (Part V σ)) (name : String) : Option (Part V σ) :=
  parts.find? fun p => p.name == name

/-- Set the part that an entry names; other entries change nothing. -/
def take (parts : List (Part V σ)) (s : σ) (e : String × V) : Option σ :=
  match find? parts e.1 with
  | none => some s
  | some p => (p.read e.2).map (p.set · s)

/-- The parts have names of their own, setting one leaves the others, and they are all there is. -/
structure Independent (parts : List (Part V σ)) : Prop where
  names_nodup : (parts.map name).Nodup
  get_set : ∀ p ∈ parts, ∀ a s, p.get (p.set a s) = a
  get_set_of_ne : ∀ p ∈ parts, ∀ q ∈ parts, q.name ≠ p.name → ∀ a s, q.get (p.set a s) = q.get s
  ext : ∀ r s, (∀ p ∈ parts, p.get r = p.get s) → r = s

/--
The part of `r` is what the value says that is there for it. Without a value it is that of `s`.
-/
def Follows (p : Part V σ) (s r : σ) : Option V → Prop
  | none => p.get r = p.get s
  | some v => p.read v = some (p.get r)

/-- The laws of a list that is written out, most of which hold by computation. -/
theorem independent_of_forall (hnames : (parts.map name).Nodup)
    (hext : ∀ r s, (parts.Forall fun p => p.get r = p.get s) → r = s)
    (hset : parts.Forall fun p => ∀ a s, p.get (p.set a s) = a := by
      and_intros <;> exact fun _ _ => rfl)
    (hothers : parts.Forall fun p => ∀ a s,
        parts.Forall fun q => q.get (p.set a s) = q.get s ∨ q.name = p.name := by
      and_intros <;> intro a s <;> and_intros <;> first | exact .inl rfl | exact .inr rfl) :
    Independent parts where
  names_nodup := hnames
  get_set := List.forall_iff_forall_mem.mp hset
  get_set_of_ne p hp q hq hne a s := by
    have hothers := List.forall_iff_forall_mem.mp hothers p hp a s
    exact (List.forall_iff_forall_mem.mp hothers q hq).resolve_right hne
  ext r s h := hext r s (List.forall_iff_forall_mem.mpr h)

theorem find?_eq_some_iff (h : Independent parts) {p : Part V σ} {name : String} :
    find? parts name = some p ↔ p ∈ parts ∧ p.name = name := by
  constructor
  · intro hp
    exact ⟨List.mem_of_find?_eq_some hp, by simpa using List.find?_some hp⟩
  · rintro ⟨hp, rfl⟩
    cases hq : find? parts p.name with
    | none => exact absurd (beq_self_eq_true p.name) (by simpa using List.find?_eq_none.mp hq p hp)
    | some q =>
      have hname : q.name = p.name := by simpa using List.find?_some hq
      rw [List.inj_on_of_nodup_map h.names_nodup (List.mem_of_find?_eq_some hq) hp hname]

theorem take_of_mem (h : Independent parts) {p : Part V σ} (hp : p ∈ parts) (v : V) :
    take parts s (p.name, v) = (p.read v).map (p.set · s) := by
  rw [take, (find?_eq_some_iff h).mpr ⟨hp, rfl⟩]

theorem take_of_unknown {e : String × V} (he : ∀ p ∈ parts, p.name ≠ e.1) :
    take parts s e = some s := by
  have hnone : find? parts e.1 = none :=
    List.find?_eq_none.mpr fun p hp => by simpa using he p hp
  rw [take, hnone]

/-- The induction is on the entries: each sets its part for good, since its key does not return. -/
theorem foldlM_take_eq_some_iff (h : Independent parts) (hn : (entries.map Prod.fst).Nodup) :
    entries.foldlM (take parts) s = some r ↔
      ∀ p ∈ parts, p.Follows s r (entries.lookup p.name) := by
  induction entries generalizing s with
  | nil =>
    refine ⟨?_, fun hall => congrArg some (h.ext s r fun p hp => (hall p hp).symm)⟩
    rintro ⟨⟩ p -
    exact rfl
  | cons e entries ih =>
    obtain ⟨hfresh, hrest⟩ := List.nodup_cons.mp hn
    rw [List.foldlM_cons]
    by_cases hknown : ∃ p ∈ parts, p.name = e.1
    · obtain ⟨p, hp, hname⟩ := hknown
      obtain ⟨key, v⟩ := e
      cases hname
      have hlater : entries.lookup p.name = none := lookup_eq_none_iff_key.mpr hfresh
      rw [take_of_mem h hp]
      cases hread : p.read v with
      | none =>
        refine ⟨(nomatch ·), fun hall => ?_⟩
        have hp := hall p hp
        rw [lookup_cons_self (p.name, v), Follows, hread] at hp
        cases hp
      | some a =>
        change entries.foldlM (take parts) (p.set a s) = some r ↔ _
        rw [ih hrest]
        refine forall₂_congr fun q hq => ?_
        by_cases hq' : q.name = p.name
        · cases List.inj_on_of_nodup_map h.names_nodup hq hp hq'
          rw [hlater, lookup_cons_self (p.name, v), Follows, Follows, hread, h.get_set p hp,
            Option.some.injEq]
          exact eq_comm
        · rw [lookup_cons_of_ne (e := (p.name, v)) hq']
          cases entries.lookup q.name with
          | none => rw [Follows, Follows, h.get_set_of_ne p hp q hq hq']
          | some w => exact Iff.rfl
    · have hunknown : ∀ p ∈ parts, p.name ≠ e.1 := fun p hp hname => hknown ⟨p, hp, hname⟩
      rw [take_of_unknown hunknown]
      refine (ih hrest).trans (forall₂_congr fun q hq => ?_)
      rw [lookup_cons_of_ne (hunknown q hq)]

theorem exists_foldlM_take_iff (h : Independent parts) (hn : (entries.map Prod.fst).Nodup) :
    (∃ r, entries.foldlM (take parts) s = some r) ↔
      ∀ p ∈ parts, ∀ v, entries.lookup p.name = some v → ∃ a, p.read v = some a := by
  constructor
  · rintro ⟨r, hr⟩ p hp v hv
    have hp := (foldlM_take_eq_some_iff h hn).mp hr p hp
    rw [hv] at hp
    exact ⟨p.get r, hp⟩
  · intro hreads
    have htake : ∀ e ∈ entries, ∀ s, ∃ s', take parts s e = some s' := by
      intro e he s
      by_cases hknown : ∃ p ∈ parts, p.name = e.1
      · obtain ⟨p, hp, hname⟩ := hknown
        obtain ⟨key, v⟩ := e
        cases hname
        obtain ⟨a, ha⟩ := hreads p hp v ((lookup_eq_some_iff_mem hn).mpr he)
        exact ⟨p.set a s, by rw [take_of_mem h hp, ha, Option.map_some]⟩
      · exact ⟨s, take_of_unknown fun p hp hname => hknown ⟨p, hp, hname⟩⟩
    clear hreads hn
    induction entries generalizing s with
    | nil => exact ⟨s, rfl⟩
    | cons e entries ih =>
      obtain ⟨s', hs'⟩ := htake e List.mem_cons_self s
      rw [List.foldlM_cons, hs']
      exact ih fun e he => htake e (List.mem_cons_of_mem _ he)

end Part

namespace Slot

variable {σ V : Type}

def Unset : Slot σ → σ → Prop
  | optional get _, s => get s = none
  | text .., _ | boolean .., _ | texts .., _ | table .., _ => True

end Slot

/-- How values are read for fields of all kinds. -/
abbrev Reading (V : Type) := ∀ {σ : Type} (x : Slot σ), V → Option x.Content

/-- A field as a part of its section. -/
def Field.part {σ V : Type} (read : Reading V) (f : Field σ) : Part V σ :=
  ⟨f.name, f.slot.Content, f.slot.get, f.slot.set, read f.slot⟩

namespace Field

variable {σ V : Type}

theorem find?_parts (read : Reading V) (fields : List (Field σ)) (name : String) :
    Part.find? (fields.map (part read)) name = (find? fields name).map (part read) := by
  rw [Part.find?, List.find?_map]
  rfl

theorem take_parts (read : Reading V) (fields : List (Field σ)) (s : σ) (e : String × V) :
    Part.take (fields.map (part read)) s e =
      match find? fields e.1 with
      | none => some s
      | some f => (read f.slot e.2).map (f.slot.set · s) := by
  rw [Part.take, find?_parts]
  cases find? fields e.1 <;> rfl

theorem nodup_of_independent {read : Reading V} {fields : List (Field σ)}
    (h : Part.Independent (fields.map (part read))) : (fields.map Field.name).Nodup := by
  have hnames := h.names_nodup
  rwa [List.map_map] at hnames

end Field

section Fields

/-- The fields have the defaults of the record, whatever it held before. -/
theorem Launcher.reset_fields (l : Launcher) : Field.reset fields l = {} :=
  rfl

theorem Submodules.reset_fields (s : Submodules) : Field.reset fields s = {} :=
  rfl

theorem Lint.reset_fields (l : Lint) : Field.reset fields l = {} :=
  rfl

theorem Site.reset_fields (s : Site) : Field.reset fields s = { lint := s.lint } :=
  rfl

theorem Launcher.fields_unset : ∀ f ∈ fields, f.slot.Unset {} := by
  simp [fields, Slot.Unset]

theorem Submodules.fields_unset : ∀ f ∈ fields, f.slot.Unset {} := by
  simp [fields, Slot.Unset]

theorem Lint.fields_unset : ∀ f ∈ fields, f.slot.Unset {} := by
  simp [fields, Slot.Unset]

theorem Site.fields_unset : ∀ f ∈ fields, f.slot.Unset {} := by
  simp [fields, Slot.Unset]

theorem Launcher.names_nodup : (fields.map Field.name).Nodup := by
  decide

theorem Submodules.names_nodup : (fields.map Field.name).Nodup := by
  decide

theorem Lint.names_nodup : (fields.map Field.name).Nodup := by
  decide

theorem Site.names_nodup : (fields.map Field.name).Nodup := by
  decide

theorem Site.lint_not_mem_names : "lint" ∉ fields.map Field.name := by
  decide

theorem Site.name_ne_lint {f : Field Site} (hf : f ∈ fields) : f.name ≠ "lint" :=
  fun heq => lint_not_mem_names (heq ▸ List.mem_map_of_mem hf)

end Fields

section Parts

variable {V : Type}

def Launcher.parts (read : Reading V) : List (Part V Launcher) :=
  Launcher.fields.map (Field.part read)

def Submodules.parts (read : Reading V) : List (Part V Submodules) :=
  Submodules.fields.map (Field.part read)

def Lint.parts (read : Reading V) : List (Part V Lint) :=
  Lint.fields.map (Field.part read)

def Site.lintPart (readLint : V → Option Lint) : Part V Site :=
  ⟨"lint", Lint, (·.lint), fun v s => { s with lint := v }, readLint⟩

def Site.parts (read : Reading V) (readLint : V → Option Lint) : List (Part V Site) :=
  Site.fields.map (Field.part read) ++ [Site.lintPart readLint]

def Settings.parts (readLauncher : V → Option Launcher) (readSubmodules : V → Option Submodules)
    (readSite : V → Option Site) : List (Part V Settings) := [
  ⟨"launcher", Launcher, (·.launcher), fun v s => { s with launcher := v }, readLauncher⟩,
  ⟨"submodules", Submodules, (·.submodules), fun v s => { s with submodules := v },
    readSubmodules⟩,
  ⟨"site", Site, (·.site), fun v s => { s with site := v }, readSite⟩]

theorem Site.take_parts (read : Reading V) (readLint : V → Option Lint) (s : Site)
    (e : String × V) :
    Part.take (parts read readLint) s e =
      if e.1 = "lint" then (readLint e.2).map fun l => { s with lint := l }
      else Part.take (fields.map (Field.part read)) s e := by
  obtain ⟨key, v⟩ := e
  by_cases hlint : key = "lint"
  · subst hlint
    rfl
  · have hfind : Part.find? (parts read readLint) key =
        Part.find? (fields.map (Field.part read)) key := by
      rw [parts, Part.find?, List.find?_append, List.find?_singleton,
        if_neg (by simpa [lintPart] using Ne.symm hlint), Option.or_none]
      rfl
    rw [if_neg hlint, Part.take, Part.take, hfind]

theorem Settings.take_parts (readLauncher : V → Option Launcher)
    (readSubmodules : V → Option Submodules) (readSite : V → Option Site) (s : Settings)
    (e : String × V) :
    Part.take (parts readLauncher readSubmodules readSite) s e =
      if e.1 = "launcher" then (readLauncher e.2).map fun l => { s with launcher := l }
      else if e.1 = "submodules" then
        (readSubmodules e.2).map fun x => { s with submodules := x }
      else if e.1 = "site" then (readSite e.2).map fun x => { s with site := x }
      else some s := by
  obtain ⟨key, v⟩ := e
  by_cases hlauncher : key = "launcher"
  · subst hlauncher
    rfl
  by_cases hsubmodules : key = "submodules"
  · subst hsubmodules
    rfl
  by_cases hsite : key = "site"
  · subst hsite
    rfl
  · rw [if_neg hlauncher, if_neg hsubmodules, if_neg hsite]
    refine Part.take_of_unknown ?_
    simp only [parts, List.forall_mem_cons, List.not_mem_nil, false_imp_iff, implies_true,
      and_true]
    exact ⟨Ne.symm hlauncher, Ne.symm hsubmodules, Ne.symm hsite⟩

theorem Launcher.parts_independent (read : Reading V) : Part.Independent (parts read) :=
  Part.independent_of_forall names_nodup fun ⟨_, _⟩ ⟨_, _⟩ => (mk.injEq ..).mpr

theorem Submodules.parts_independent (read : Reading V) : Part.Independent (parts read) :=
  Part.independent_of_forall names_nodup fun ⟨_, _, _, _⟩ ⟨_, _, _, _⟩ => (mk.injEq ..).mpr

theorem Lint.parts_independent (read : Reading V) : Part.Independent (parts read) :=
  Part.independent_of_forall names_nodup fun ⟨_, _⟩ ⟨_, _⟩ => (mk.injEq ..).mpr

theorem Site.parts_independent (read : Reading V) (readLint : V → Option Lint) :
    Part.Independent (parts read readLint) := by
  have hnames : (fields.map Field.name ++ ["lint"]).Nodup := by
    decide
  refine Part.independent_of_forall hnames ?_
  rintro ⟨⟩ ⟨⟩ h
  exact (mk.injEq ..).mpr h

theorem Settings.parts_independent (readLauncher : V → Option Launcher)
    (readSubmodules : V → Option Submodules) (readSite : V → Option Site) :
    Part.Independent (parts readLauncher readSubmodules readSite) := by
  have hnames : ["launcher", "submodules", "site"].Nodup := by
    decide
  exact Part.independent_of_forall hnames fun ⟨_, _, _⟩ ⟨_, _, _⟩ => (mk.injEq ..).mpr

end Parts

end DocLaunch
