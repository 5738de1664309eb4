import DocLaunch.Launch.Builder
import DocLaunch.Proofs.Json.Printable
import DocLaunch.Proofs.Json.Spelling
import DocLaunch.Proofs.Settings.Parts

namespace DocLaunch

section Reading

variable {σ : Type}

def Slot.readJson? : (x : Slot σ) → Json → Option x.Content
  | .text .., v => v.asText?
  | .optional .., .null => some none
  | .optional .., v => v.asText?.map some
  | .boolean .., v => v.asBoolean?
  | .texts .., v => v.asTexts?
  | .table .., v => v.asTable?

theorem Slot.ofJson?_eq (x : Slot σ) (v : Json) (s : σ) :
    x.ofJson? v s = (x.readJson? v).map (x.set · s) := by
  cases x with
  | text | boolean => cases v <;> rfl
  | optional => cases v <;> rfl
  | texts =>
    simp only [ofJson?, readJson?]
    cases v.asTexts? <;> rfl
  | table =>
    simp only [ofJson?, readJson?]
    cases v.asTable? <;> rfl

theorem Field.ofJson?_eq (fields : List (Field σ)) (s : σ) (e : String × Json) :
    Field.ofJson? fields s e = Part.take (fields.map (Field.part Slot.readJson?)) s e := by
  rw [Field.ofJson?, take_parts]
  cases Field.find? fields e.1 with
  | none => rfl
  | some f => exact f.slot.ofJson?_eq e.2 s

theorem Json.asTexts?_map_string (ss : List String) :
    (Json.array (ss.map .string)).asTexts? = some ss := by
  change (ss.map Json.string).mapM Json.asText? = some ss
  rw [List.mapM_map]
  exact (List.mapM_pure (f := id)).trans (congrArg some (List.map_id ss))

theorem StringTable.asTable?_toJson (t : StringTable) : t.toJson.asTable? = some t := by
  have hentries : ((t.entries.map fun e => (e.1, Json.string e.2)).mapM
      fun e => do return (e.1, ← e.2.asText?)) = some t.entries := by
    rw [List.mapM_map]
    exact (List.mapM_pure (f := id)).trans (congrArg some (List.map_id t.entries))
  rw [toJson, Json.asTable?, hentries]
  exact congrArg some (ofList_entries t)

theorem Field.name_of_toJson? {s : σ} {f : Field σ} {e : String × Json}
    (h : Field.toJson? s f = some e) : e.1 = f.name := by
  obtain ⟨name, slot, default⟩ := f
  cases slot with
  | text | boolean | texts | table =>
    cases h
    rfl
  | optional =>
    obtain ⟨v, -, rfl⟩ := Option.map_eq_some_iff.mp h
    rfl

/-- What is written for a field is its value again, and where nothing is written it was unset. -/
theorem Field.follows_toJson? {f : Field σ} {start s : σ} (h : f.slot.Unset start) :
    (f.part Slot.readJson?).Follows start s ((Field.toJson? s f).map Prod.snd) := by
  obtain ⟨name, slot, default⟩ := f
  cases slot with
  | text | boolean => rfl
  | texts => exact Json.asTexts?_map_string _
  | table => exact StringTable.asTable?_toJson _
  | optional get set =>
    change Part.Follows _ start s (((get s).map fun v => (name, Json.string v)).map Prod.snd)
    cases hs : get s with
    | none => exact hs.trans h.symm
    | some v => exact congrArg some hs.symm

variable {fields : List (Field σ)} {start s : σ}

theorem Field.keys_jsonFields_sublist (fields : List (Field σ)) (s : σ) :
    ((Field.jsonFields fields s).map Prod.fst).Sublist (fields.map Field.name) :=
  keys_filterMap_sublist fun _ _ _ => name_of_toJson?

theorem Field.lookup_jsonFields (hn : (fields.map Field.name).Nodup) {f : Field σ}
    (hf : f ∈ fields) :
    (Field.jsonFields fields s).lookup f.name = (Field.toJson? s f).map Prod.snd :=
  lookup_filterMap (fun _ _ _ => name_of_toJson?) hn hf

theorem Field.sectionOfJson?_jsonFields
    (h : Part.Independent (fields.map (Field.part Slot.readJson?)))
    (hunset : ∀ f ∈ fields, f.slot.Unset start) :
    sectionOfJson? (Field.ofJson? fields) start (.object (jsonFields fields s)) = some s := by
  have hnames := nodup_of_independent h
  have hkeys := hnames.sublist (keys_jsonFields_sublist fields s)
  simp only [sectionOfJson?, funext₂ (ofJson?_eq fields)]
  rw [Part.foldlM_take_eq_some_iff h hkeys, List.forall_mem_map]
  intro f hf
  change Part.Follows _ start s ((jsonFields fields s).lookup f.name)
  rw [lookup_jsonFields hnames hf]
  exact follows_toJson? (hunset f hf)

end Reading

theorem Launcher.ofJson?_toJson (l : Launcher) : ofJson? l.toJson = some l := by
  rw [ofJson?, reset_fields]
  exact Field.sectionOfJson?_jsonFields (parts_independent _) fields_unset

theorem Submodules.ofJson?_toJson (s : Submodules) : ofJson? s.toJson = some s := by
  rw [ofJson?, reset_fields]
  exact Field.sectionOfJson?_jsonFields (parts_independent _) fields_unset

theorem Lint.ofJson?_toJson (l : Lint) : ofJson? l.toJson = some l := by
  rw [ofJson?, reset_fields]
  exact Field.sectionOfJson?_jsonFields (parts_independent _) fields_unset

theorem Site.entryOfJson?_eq (s : Site) (e : String × Json) :
    Site.entryOfJson? s e = Part.take (parts Slot.readJson? Lint.ofJson?) s e := by
  rw [take_parts, Site.entryOfJson?]
  split
  · cases Lint.ofJson? e.2 <;> rfl
  · exact Field.ofJson?_eq fields s e

theorem Site.ofJson?_toJson (s : Site) : ofJson? s.toJson = some s := by
  have hindependent := parts_independent Slot.readJson? Lint.ofJson?
  have hkeys : ((Field.jsonFields fields s ++ [("lint", s.lint.toJson)]).map Prod.fst).Nodup := by
    rw [List.map_append]
    exact hindependent.names_nodup.sublist
      ((Field.keys_jsonFields_sublist fields s).append (List.Sublist.refl ["lint"]))
  have hreset : Field.reset fields {} = ({} : Site) := reset_fields {}
  rw [ofJson?, hreset]
  change (Field.jsonFields fields s ++ [("lint", s.lint.toJson)]).foldlM Site.entryOfJson? {} = _
  simp only [funext₂ entryOfJson?_eq]
  rw [Part.foldlM_take_eq_some_iff hindependent hkeys, parts, List.forall_mem_append,
    List.forall_mem_map, List.forall_mem_singleton]
  constructor
  · intro f hf
    change Part.Follows _ {} s ((_ ++ [("lint", s.lint.toJson)]).lookup f.name)
    rw [lookup_append_singleton_of_ne (e := ("lint", _)) (name_ne_lint hf),
      Field.lookup_jsonFields names_nodup hf]
    exact Field.follows_toJson? (fields_unset f hf)
  · have hmissing : (Field.jsonFields fields s).lookup "lint" = none :=
      lookup_filterMap_eq_none (fun _ _ _ => Field.name_of_toJson?) lint_not_mem_names
    change Part.Follows _ {} s ((_ ++ [("lint", s.lint.toJson)]).lookup "lint")
    rw [lookup_append_singleton_self (e := ("lint", _)) hmissing]
    exact Lint.ofJson?_toJson s.lint

theorem Settings.ofJson?_toJson (c : Settings) : ofJson? c.toJson = some c := by
  simp [ofJson?, toJson, Field.sectionOfJson?, entryOfJson?, Launcher.ofJson?_toJson,
    Submodules.ofJson?_toJson, Site.ofJson?_toJson]

theorem Site.ofJsonText?_toJsonText (s : Site) : ofJsonText? s.toJsonText = some s := by
  rw [ofJsonText?, toJsonText, String.toList_ofList, Json.ofText?_compact]
  exact ofJson?_toJson s

theorem Site.toJsonText_injective : Function.Injective toJsonText := by
  intro s s' h
  have hread := ofJsonText?_toJsonText s
  rw [h, ofJsonText?_toJsonText s'] at hread
  exact (Option.some.inj hread).symm

theorem Site.printable_toJsonText (s : Site) : ∀ c ∈ s.toJsonText.toList, 0x20 ≤ c.toNat := by
  rw [toJsonText, String.toList_ofList]
  exact Json.printable_compact s.toJson

theorem Settings.ofJsonText?_toJsonText (c : Settings) :
    ofJsonText? (c.toJsonText ++ "\n") = some c := by
  have hblank : Json.Blank ['\n'] := Json.blank_newLine 0
  rw [ofJsonText?, toJsonText, String.toList_append, String.toList_ofList]
  change (Json.ofText? (c.toJson.pretty 0 ++ ['\n'])).bind ofJson? = some c
  rw [Json.ofText?_pretty c.toJson 0 hblank]
  exact ofJson?_toJson c

end DocLaunch
