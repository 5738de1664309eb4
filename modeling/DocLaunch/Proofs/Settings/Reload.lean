import DocLaunch.Proofs.Settings.Overlay
import DocLaunch.Proofs.Toml.Groups
import DocLaunch.Settings.Show

namespace DocLaunch

open Toml

section Fields

variable {σ : Type} {fields : List (Field σ)} {start s : σ} {f : Field σ}

def Field.table? (s : σ) (f : Field σ) : Option (String × List (String × Plain)) :=
  match f.slot with
  | .table get _ => some (f.name, (get s).entries.map fun e => (e.1, .text e.2))
  | _ => none

theorem Field.name_of_entry? {e : String × Plain} (h : Field.entry? s f = some e) :
    e.1 = f.name := by
  obtain ⟨name, slot, default⟩ := f
  cases slot with
  | text | boolean | texts =>
    cases h
    rfl
  | optional =>
    obtain ⟨v, -, rfl⟩ := Option.map_eq_some_iff.mp h
    rfl
  | table => cases h

theorem Field.name_of_table? {t : String × List (String × Plain)}
    (h : Field.table? s f = some t) : t.1 = f.name := by
  obtain ⟨name, slot, default⟩ := f
  cases slot with
  | table =>
    cases h
    rfl
  | text | optional | boolean | texts => cases h

theorem Field.table?_eq_none {e : String × Plain} (h : Field.entry? s f = some e) :
    Field.table? s f = none := by
  obtain ⟨name, slot, default⟩ := f
  cases slot with
  | text | optional | boolean | texts => rfl
  | table => cases h

theorem isTable_of_tableOf {v : Value} {t : StringTable}
    (h : v.TableOf (t.entries.map fun e => (e.1, .text e.2))) : v.IsTable t := by
  cases h with
  | intro mark h => exact .table mark .header (lookup_rel (List.forall₂_map_right_iff.mp h))

/-- What was written for a field overlays it with its own value. -/
theorem Field.given_of_shown (hunset : f.slot.Unset start) {v? w? : Option Value}
    (hv : Option.Rel Value.Shows v? ((Field.entry? s f).map Prod.snd))
    (hw : Option.Rel Value.TableOf w? ((Field.table? s f).map Prod.snd)) :
    Given f.slot.Stands (f.slot.get start) (f.slot.get s) (v?.or w?) := by
  obtain ⟨name, slot, default⟩ := f
  cases slot with
  | text get set | boolean get set | texts get set =>
    cases hv with
    | some hv => exact hv
  | optional get set =>
    change Option.Rel Value.Shows v?
      (((get s).map fun a => (name, Plain.text a)).map Prod.snd) at hv
    change Given _ (get start) (get s) (v?.or w?)
    cases hs : get s with
    | none =>
      rw [hs] at hv
      cases hv
      cases hw
      exact hunset.symm
    | some a =>
      rw [hs] at hv
      cases hv with
      | some hv => exact ⟨a, rfl, hv⟩
  | table get set =>
    cases hv
    cases hw with
    | some hw => exact isTable_of_tableOf hw

def Field.group (name : String) (fields : List (Field σ)) (s : σ) : Group :=
  ⟨name, fields.filterMap (Field.entry? s), fields.filterMap (Field.table? s)⟩

theorem Field.keys_entries_sublist (fields : List (Field σ)) (s : σ) :
    ((fields.filterMap (Field.entry? s)).map Prod.fst).Sublist (fields.map Field.name) :=
  keys_filterMap_sublist fun _ _ _ => name_of_entry?

theorem Field.keys_tables_sublist (fields : List (Field σ)) (s : σ) :
    ((fields.filterMap (Field.table? s)).map Prod.fst).Sublist (fields.map Field.name) :=
  keys_filterMap_sublist fun _ _ _ => name_of_table?

theorem Field.keys_disjoint (hn : (fields.map Field.name).Nodup) (s : σ) :
    ∀ a ∈ (fields.filterMap (Field.entry? s)).map Prod.fst,
      ∀ b ∈ (fields.filterMap (Field.table? s)).map Prod.fst, a ≠ b := by
  rintro _ he _ ht rfl
  obtain ⟨e, he, hname⟩ := List.mem_map.mp he
  obtain ⟨t, ht, hname'⟩ := List.mem_map.mp ht
  obtain ⟨f, hf, hfe⟩ := List.mem_filterMap.mp he
  obtain ⟨f', hf', hft⟩ := List.mem_filterMap.mp ht
  have hsame : f.name = f'.name := by
    rw [← name_of_entry? hfe, ← name_of_table? hft, hname, hname']
  cases List.inj_on_of_nodup_map hn hf hf' hsame
  rw [table?_eq_none hfe] at hft
  cases hft

theorem Field.tables_nodup {t : String × List (String × Plain)}
    (ht : t ∈ fields.filterMap (Field.table? s)) : (t.2.map Prod.fst).Nodup := by
  obtain ⟨f, -, hft⟩ := List.mem_filterMap.mp ht
  obtain ⟨name, slot, default⟩ := f
  cases slot with
  | table get set =>
    cases hft
    rw [List.map_map]
    exact (get s).keys_nodup
  | text | optional | boolean | texts => cases hft

theorem Field.group_distinct (hn : (fields.map Field.name).Nodup) (name : String) (s : σ) :
    (Field.group name fields s).Distinct where
  keys := List.nodup_append.mpr
    ⟨hn.sublist (keys_entries_sublist fields s), hn.sublist (keys_tables_sublist fields s),
      keys_disjoint hn s⟩
  tables _ := tables_nodup

theorem Field.overlaid_of_shown (hn : (fields.map Field.name).Nodup)
    (hunset : ∀ f ∈ fields, f.slot.Unset start) {mark : Nat} {es ts : Entries}
    (hes : es.Show (fields.filterMap (Field.entry? s)))
    (hts : ∀ f ∈ fields,
      Option.Rel Value.TableOf (ts.lookup f.name) ((Field.table? s f).map Prod.snd))
    (names : List String) :
    Field.Overlaid fields names start (.table mark .header (es ++ ts)) s := by
  refine ⟨trivial, fun f hf => ?_⟩
  change Given _ _ _ ((es ++ ts).lookup f.name)
  have hentry := lookup_rel hes f.name
  rw [lookup_filterMap (fun _ _ _ => name_of_entry?) hn hf] at hentry
  rw [List.lookup_append]
  exact given_of_shown (hunset f hf) hentry (hts f hf)

theorem Field.overlaid_of_groupOf (hn : (fields.map Field.name).Nodup)
    (hunset : ∀ f ∈ fields, f.slot.Unset start) {name : String} {v : Value}
    (hv : v.GroupOf (Field.group name fields s)) (names : List String) :
    Field.Overlaid fields names start v s := by
  cases hv with
  | intro mark hes hts =>
    refine overlaid_of_shown hn hunset hes (fun f hf => ?_) names
    rw [← lookup_filterMap (fun _ _ _ => name_of_table?) hn hf]
    exact lookup_rel hts f.name

end Fields

section Sections

variable {v : Value}

/-- The section of a site: its lint settings come after its tables. -/
def Site.group (s : Site) : Group :=
  ⟨"site", fields.filterMap (Field.entry? s),
    fields.filterMap (Field.table? s) ++ [("lint", Lint.fields.filterMap (Field.entry? s.lint))]⟩

def Settings.groups (c : Settings) : List Group :=
  [Field.group "launcher" Launcher.fields c.launcher,
    Field.group "submodules" Submodules.fields c.submodules, c.site.group]

theorem Settings.sections_eq (c : Settings) : c.sections = c.groups.flatMap Group.sections :=
  rfl

theorem Site.group_distinct (s : Site) : s.group.Distinct where
  keys := by
    change ((fields.filterMap (Field.entry? s)).map Prod.fst ++
      (fields.filterMap (Field.table? s) ++ [("lint", _)]).map Prod.fst).Nodup
    rw [List.map_append, ← List.append_assoc]
    refine List.nodup_append.mpr
      ⟨(Field.group_distinct names_nodup "site" s).keys, List.nodup_singleton "lint", ?_⟩
    rintro key hkey _ hlint rfl
    obtain rfl := List.mem_singleton.mp hlint
    rcases List.mem_append.mp hkey with hkey | hkey
    · exact lint_not_mem_names ((Field.keys_entries_sublist fields s).subset hkey)
    · exact lint_not_mem_names ((Field.keys_tables_sublist fields s).subset hkey)
  tables := by
    intro t ht
    rcases List.mem_append.mp ht with ht | ht
    · exact Field.tables_nodup ht
    · rw [List.mem_singleton.mp ht]
      exact Lint.names_nodup.sublist (Field.keys_entries_sublist Lint.fields s.lint)

theorem Site.overlaid_of_groupOf {s : Site} (hv : v.GroupOf s.group) : Site.Overlaid v s := by
  cases hv with
  | @intro mark es ts _ hes hts =>
    have htable : ∀ key, Option.Rel Value.TableOf (ts.lookup key)
        ((fields.filterMap (Field.table? s) ++
          [("lint", Lint.fields.filterMap (Field.entry? s.lint))]).lookup key) :=
      lookup_rel hts
    constructor
    · refine Field.overlaid_of_shown names_nodup fields_unset hes (fun f hf => ?_) names
      have htable := htable f.name
      rwa [lookup_append_singleton_of_ne (e := ("lint", _)) (name_ne_lint hf),
        lookup_filterMap (fun _ _ _ => Field.name_of_table?) names_nodup hf] at htable
    · have hentry : Option.Rel Value.Shows (es.lookup "lint")
          ((fields.filterMap (Field.entry? s)).lookup "lint") :=
        lookup_rel hes "lint"
      have htable := htable "lint"
      rw [lookup_filterMap_eq_none (fun _ _ _ => Field.name_of_entry?) lint_not_mem_names]
        at hentry
      rw [lookup_append_singleton_self (e := ("lint", _)) (lookup_filterMap_eq_none
        (fun _ _ _ => Field.name_of_table?) lint_not_mem_names)] at htable
      change Given _ _ _ ((es ++ ts).lookup "lint")
      rw [List.lookup_append]
      generalize es.lookup "lint" = v? at hentry
      generalize ts.lookup "lint" = w? at htable
      cases hentry
      cases htable with
      | some hw =>
        exact Field.overlaid_of_groupOf Lint.names_nodup Lint.fields_unset (hw.groupOf "lint")
          Lint.names

theorem Settings.groups_distinct (c : Settings) : ∀ g ∈ c.groups, g.Distinct := by
  simp only [groups, List.forall_mem_cons, List.not_mem_nil, false_imp_iff, implies_true, and_true]
  exact ⟨Field.group_distinct Launcher.names_nodup _ _,
    Field.group_distinct Submodules.names_nodup _ _, c.site.group_distinct⟩

theorem Settings.overlaid_of_groups {c : Settings} {ts : Entries}
    (h : List.Forall₂ (fun e g => e.1 = g.name ∧ e.2.GroupOf g) ts c.groups) :
    Settings.Overlaid (.table 0 .header ts) c := by
  obtain ⟨⟨_, launcher⟩, _, ⟨rfl, hlauncher⟩, h₁, rfl⟩ := List.forall₂_cons_right_iff.mp h
  obtain ⟨⟨_, submodules⟩, _, ⟨rfl, hsubmodules⟩, h₂, rfl⟩ := List.forall₂_cons_right_iff.mp h₁
  obtain ⟨⟨_, site⟩, _, ⟨rfl, hsite⟩, -, rfl⟩ := List.forall₂_cons_right_iff.mp h₂
  exact ⟨Field.overlaid_of_groupOf Launcher.names_nodup Launcher.fields_unset hlauncher _,
    Field.overlaid_of_groupOf Submodules.names_nodup Submodules.fields_unset hsubmodules _,
    Site.overlaid_of_groupOf hsite⟩

/-- Settings that are shown are read again as they were. -/
theorem Settings.ofText_toToml (c : Settings) : Settings.ofText (c.toToml ++ "\n") = .ok c := by
  have hnames : (c.groups.map Group.name).Nodup := by
    change ["launcher", "submodules", "site"].Nodup
    decide
  obtain ⟨ts, hts, hread⟩ := ofText?_writeSections c.groups_distinct hnames
  have htext : (c.toToml ++ "\n").toList =
      writeSections (c.groups.flatMap Group.sections) ++ ['\n'] := by
    rw [String.toList_append, toToml, String.toList_ofList, sections_eq]
    rfl
  rw [← htext] at hread
  exact (ofText_eq_ok_iff hread).mpr (overlaid_of_groups hts)

theorem FileSystem.readText_of_readBytes {files : FileSystem} {cwd : Place} {p : Path}
    {text : String} (h : files.readBytes cwd p = .ok text.toUTF8) :
    files.readText cwd p = .ok text := by
  have htext : String.fromUTF8? text.toUTF8 = some text := dif_pos text.isValidUTF8
  simp only [readText, h, bind, Except.bind, htext]

theorem Settings.loadFrom_answer_of_shown {setting : Setting} {files : FileSystem} {p : Path}
    {c : Settings} (h : files.readBytes setting.cwd p = .ok (c.toToml ++ "\n").toUTF8) :
    (loadFrom p).answer setting files = .ok c := by
  rw [loadFrom_answer (FileSystem.readText_of_readBytes h), ofText_toToml]
  rfl

end Sections

end DocLaunch
