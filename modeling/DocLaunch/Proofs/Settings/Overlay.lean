import DocLaunch.Proofs.Settings.File
import DocLaunch.Proofs.Settings.Parts
import DocLaunch.Proofs.Toml.Reading

namespace DocLaunch

open Toml

variable {σ : Type}

/-- What a value stands for in a field of the kind. -/
def Slot.Stands : (x : Slot σ) → Value → x.Content → Prop
  | .text .., v, s => v.IsText s
  | .optional .., v, s? => ∃ s, s? = some s ∧ v.IsText s
  | .boolean .., v, b => v.IsBoolean b
  | .texts .., v, ss => v.IsTexts ss
  | .table .., v, t => v.IsTable t

/-- Where a value is present it stands for the content, and otherwise the content is the default. -/
def Given {α : Type} (stands : Value → α → Prop) (default a : α) : Option Value → Prop
  | none => a = default
  | some v => stands v a

/-- The values that are present stand for some content of their fields. -/
def Field.Conform (fields : List (Field σ)) (names : List String) (v : Value) : Prop :=
  v.IsSection ∧
    ∀ f ∈ fields, ∀ w, v.member? names f.name = some w → ∃ a, f.slot.Stands w a

/-- The fields of `r` are those of `s`, overlaid by the values that are present. -/
def Field.Overlaid (fields : List (Field σ)) (names : List String) (s : σ) (v : Value) (r : σ) :
    Prop :=
  v.IsSection ∧
    ∀ f ∈ fields, Given f.slot.Stands (f.slot.get s) (f.slot.get r) (v.member? names f.name)

/-- The same fields are present, with values that are the same. -/
def Field.Alike (fields : List (Field σ)) (names : List String) (v w : Value) : Prop :=
  (v.IsSection ↔ w.IsSection) ∧
    ∀ f ∈ fields, Option.Rel Value.Same (v.member? names f.name) (w.member? names f.name)

def Launcher.names : List String := Field.names fields

def Submodules.names : List String := Field.names fields

def Lint.names : List String := Field.names fields

/-- The lint section comes after the fields of the site. -/
def Site.names : List String := Field.names fields ++ ["lint"]

def Site.Conforms (v : Value) : Prop :=
  Field.Conform fields names v ∧
    ∀ w, v.member? names "lint" = some w → Field.Conform Lint.fields Lint.names w

def Site.Overlaid (v : Value) (s : Site) : Prop :=
  Field.Overlaid fields names {} v s ∧
    Given (Field.Overlaid Lint.fields Lint.names {}) {} s.lint (v.member? names "lint")

def Site.Alike (v w : Value) : Prop :=
  Field.Alike fields names v w ∧
    Option.Rel (Field.Alike Lint.fields Lint.names) (v.member? names "lint")
      (w.member? names "lint")

def Toml.Value.entries : Value → Entries
  | .table _ _ entries => entries
  | .scalar .. | .array .. | .tables .. => []

def Settings.Conforms (document : Value) : Prop :=
  (∀ v, document.entries.lookup "launcher" = some v →
      Field.Conform Launcher.fields Launcher.names v) ∧
    (∀ v, document.entries.lookup "submodules" = some v →
      Field.Conform Submodules.fields Submodules.names v) ∧
    ∀ v, document.entries.lookup "site" = some v → Site.Conforms v

/-- The settings are the defaults, overlaid by what the document has for each section. -/
def Settings.Overlaid (document : Value) (c : Settings) : Prop :=
  Given (Field.Overlaid Launcher.fields Launcher.names {}) {} c.launcher
      (document.entries.lookup "launcher") ∧
    Given (Field.Overlaid Submodules.fields Submodules.names {}) {} c.submodules
      (document.entries.lookup "submodules") ∧
    Given Site.Overlaid {} c.site (document.entries.lookup "site")

/-- The documents agree on all known keys. -/
def Settings.Alike (document document' : Value) : Prop :=
  Option.Rel (Field.Alike Launcher.fields Launcher.names) (document.entries.lookup "launcher")
      (document'.entries.lookup "launcher") ∧
    Option.Rel (Field.Alike Submodules.fields Submodules.names)
      (document.entries.lookup "submodules") (document'.entries.lookup "submodules") ∧
    Option.Rel Site.Alike (document.entries.lookup "site") (document'.entries.lookup "site")

section Reading

variable {s r : σ} {fields : List (Field σ)} {v w : Value}

def Slot.ofToml? : (x : Slot σ) → Value → Option x.Content
  | .text .., v => v.asText.toOption
  | .optional .., v => v.asText.toOption.map some
  | .boolean .., v => v.asBoolean.toOption
  | .texts .., v => v.asTexts.toOption
  | .table .., v => v.asTable.toOption

theorem toOption_eq_some_iff {ε α : Type} {x : Except ε α} {a : α} :
    x.toOption = some a ↔ x = .ok a := by
  cases x <;> simp [Except.toOption]

theorem toOption_bind {ε α β : Type} (x : Except ε α) (f : α → Except ε β) :
    (x >>= f).toOption = x.toOption.bind fun a => (f a).toOption := by
  cases x <;> rfl

theorem toOption_foldlM {ε α β : Type} (f : β → α → Except ε β) (l : List α) (b : β) :
    (l.foldlM f b).toOption = l.foldlM (fun b a => (f b a).toOption) b := by
  induction l generalizing b with
  | nil => rfl
  | cons a l ih =>
    rw [List.foldlM_cons, List.foldlM_cons, toOption_bind]
    exact congrArg _ (funext fun b => ih b)

theorem Slot.ofToml?_eq_some_iff (hv : v.DistinctKeys) (x : Slot σ) {a : x.Content} :
    x.ofToml? v = some a ↔ x.Stands v a := by
  cases x with
  | text => exact toOption_eq_some_iff.trans Value.asText_eq_ok_iff
  | optional =>
    refine Option.map_eq_some_iff.trans (exists_congr fun s => and_comm.trans ?_)
    exact and_congr eq_comm (toOption_eq_some_iff.trans Value.asText_eq_ok_iff)
  | boolean => exact toOption_eq_some_iff.trans Value.asBoolean_eq_ok_iff
  | texts => exact toOption_eq_some_iff.trans Value.asTexts_eq_ok_iff
  | table => exact toOption_eq_some_iff.trans (Value.asTable_eq_ok_iff hv)

theorem Slot.toOption_decode (x : Slot σ) (v : Value) (s : σ) :
    (x.decode v s).toOption = (x.ofToml? v).map (x.set · s) := by
  cases x with
  | text | optional =>
    simp only [decode, ofToml?]
    cases v.asText <;> rfl
  | boolean =>
    simp only [decode, ofToml?]
    cases v.asBoolean <;> rfl
  | texts =>
    simp only [decode, ofToml?]
    cases v.asTexts <;> rfl
  | table =>
    simp only [decode, ofToml?]
    cases v.asTable <;> rfl

theorem Field.toOption_decode (fields : List (Field σ)) (s : σ) (e : String × Value) :
    (Field.decode fields s e).toOption =
      Part.take (fields.map (Field.part Slot.ofToml?)) s e := by
  rw [Field.decode, take_parts]
  cases Field.find? fields e.1 with
  | none => rfl
  | some f => exact f.slot.toOption_decode e.2 s

/-- The induction over the entries has been done for parts; here the entries are a section's. -/
theorem section_eq_some_iff {parts : List (Part Value σ)} (h : Part.Independent parts)
    (hv : v.DistinctKeys) (shape : Shape) :
    ((v.asSection shape (parts.map Part.name)).toOption.bind
        fun entries => entries.foldlM (Part.take parts) s) = some r ↔
      v.IsSection ∧ ∀ p ∈ parts, p.Follows s r (v.member? (parts.map Part.name) p.name) := by
  by_cases hsection : v.IsSection
  · obtain ⟨entries, hentries, hn, hmember⟩ :=
      Value.exists_entries_of_isSection shape hv h.names_nodup hsection
    rw [hentries]
    refine (Part.foldlM_take_eq_some_iff h hn).trans ((forall₂_congr fun p hp => ?_).trans
      (and_iff_right hsection).symm)
    rw [hmember p.name (List.mem_map_of_mem hp)]
  · rw [Value.asSection_toOption_eq_none shape hsection]
    exact ⟨(nomatch ·), fun hr => absurd hr.1 hsection⟩

theorem exists_section_iff {parts : List (Part Value σ)} (h : Part.Independent parts)
    (hv : v.DistinctKeys) (shape : Shape) :
    (∃ r, ((v.asSection shape (parts.map Part.name)).toOption.bind
        fun entries => entries.foldlM (Part.take parts) s) = some r) ↔
      v.IsSection ∧ ∀ p ∈ parts, ∀ w, v.member? (parts.map Part.name) p.name = some w →
        ∃ a, p.read w = some a := by
  by_cases hsection : v.IsSection
  · obtain ⟨entries, hentries, hn, hmember⟩ :=
      Value.exists_entries_of_isSection shape hv h.names_nodup hsection
    rw [hentries]
    refine (Part.exists_foldlM_take_iff h hn).trans ((forall₂_congr fun p hp => ?_).trans
      (and_iff_right hsection).symm)
    rw [hmember p.name (List.mem_map_of_mem hp)]
  · rw [Value.asSection_toOption_eq_none shape hsection]
    exact ⟨fun ⟨_, hr⟩ => (nomatch hr), fun hr => absurd hr.1 hsection⟩

theorem Part.follows_iff_given {p : Part Value σ} {stands : Value → p.Content → Prop}
    {v? : Option Value} (h : ∀ v, v? = some v → ∀ a, p.read v = some a ↔ stands v a) :
    p.Follows s r v? ↔ Given stands (p.get s) (p.get r) v? := by
  cases v? with
  | none => rfl
  | some v => exact h v rfl _

theorem Field.decode_eq_ok_iff
    (h : Part.Independent (fields.map (Field.part (V := Value) Slot.ofToml?)))
    (hv : v.DistinctKeys) (shape : Shape) :
    (v.asSection shape (names fields) >>= fun entries =>
        entries.foldlM (Field.decode fields) s) = .ok r ↔
      Field.Overlaid fields (names fields) s v r := by
  have hnames : (fields.map (Field.part Slot.ofToml?)).map Part.name = names fields :=
    List.map_map ..
  have hsection := section_eq_some_iff (s := s) (r := r) h hv shape
  rw [hnames, List.forall_mem_map] at hsection
  rw [← toOption_eq_some_iff, toOption_bind]
  simp only [toOption_foldlM, Field.toOption_decode]
  refine hsection.trans (and_congr_right fun _ => forall₂_congr fun f _ => ?_)
  exact Part.follows_iff_given (p := Field.part Slot.ofToml? f) fun w hw _ =>
    Slot.ofToml?_eq_some_iff (hv.of_member? hw) f.slot

theorem Field.exists_decode_iff
    (h : Part.Independent (fields.map (Field.part (V := Value) Slot.ofToml?)))
    (hv : v.DistinctKeys) (shape : Shape) :
    (∃ r, (v.asSection shape (names fields) >>= fun entries =>
        entries.foldlM (Field.decode fields) s) = .ok r) ↔
      Field.Conform fields (names fields) v := by
  have hnames : (fields.map (Field.part Slot.ofToml?)).map Part.name = names fields :=
    List.map_map ..
  have hsection := exists_section_iff (s := s) h hv shape
  rw [hnames, List.forall_mem_map] at hsection
  simp only [← toOption_eq_some_iff, toOption_bind, toOption_foldlM, Field.toOption_decode]
  refine hsection.trans (and_congr_right fun _ => forall₂_congr fun f _ => forall₂_congr
    fun w hw => exists_congr fun a => ?_)
  exact Slot.ofToml?_eq_some_iff (hv.of_member? hw) f.slot

end Reading

section Sections

variable {v document : Value}

theorem Lint.decode_eq_ok_iff {l : Lint} (hv : v.DistinctKeys) :
    Lint.decode v = .ok l ↔ Field.Overlaid fields names {} v l := by
  rw [Lint.decode, reset_fields]
  exact Field.decode_eq_ok_iff (parts_independent _) hv .lint

theorem Lint.exists_decode_iff (hv : v.DistinctKeys) :
    (∃ l, Lint.decode v = .ok l) ↔ Field.Conform fields names v :=
  Field.exists_decode_iff (parts_independent _) hv .lint

theorem Launcher.decode_eq_ok_iff {l : Launcher} (hv : v.DistinctKeys) :
    Launcher.decode v = .ok l ↔ Field.Overlaid fields names {} v l := by
  rw [Launcher.decode, reset_fields]
  exact Field.decode_eq_ok_iff (parts_independent _) hv .launcher

theorem Launcher.exists_decode_iff (hv : v.DistinctKeys) :
    (∃ l, Launcher.decode v = .ok l) ↔ Field.Conform fields names v :=
  Field.exists_decode_iff (parts_independent _) hv .launcher

theorem Submodules.decode_eq_ok_iff {s : Submodules} (hv : v.DistinctKeys) :
    Submodules.decode v = .ok s ↔ Field.Overlaid fields names {} v s := by
  rw [Submodules.decode, reset_fields]
  exact Field.decode_eq_ok_iff (parts_independent _) hv .submodules

theorem Submodules.exists_decode_iff (hv : v.DistinctKeys) :
    (∃ s, Submodules.decode v = .ok s) ↔ Field.Conform fields names v :=
  Field.exists_decode_iff (parts_independent _) hv .submodules

def Site.tomlParts : List (Part Value Site) :=
  parts Slot.ofToml? fun v => (Lint.decode v).toOption

theorem Site.toOption_decodeEntry (s : Site) (e : String × Value) :
    (Site.decodeEntry s e).toOption = Part.take tomlParts s e := by
  rw [tomlParts, take_parts, Site.decodeEntry]
  split
  · cases Lint.decode e.2 <;> rfl
  · exact Field.toOption_decode fields s e

theorem Site.names_eq : tomlParts.map Part.name = names := by
  rw [tomlParts, parts, List.map_append, List.map_map]
  rfl

theorem Site.decode_eq_ok_iff {s : Site} (hv : v.DistinctKeys) :
    Site.decode v = .ok s ↔ Site.Overlaid v s := by
  have hreset : Field.reset fields {} = ({} : Site) := reset_fields {}
  have hsection := section_eq_some_iff (s := {}) (r := s)
    (parts_independent Slot.ofToml? fun v => (Lint.decode v).toOption) hv .site
  rw [← tomlParts, names_eq] at hsection
  rw [Site.decode, hreset, ← toOption_eq_some_iff, toOption_bind]
  simp only [toOption_foldlM, toOption_decodeEntry]
  refine hsection.trans ?_
  rw [tomlParts, parts, List.forall_mem_append, List.forall_mem_map, List.forall_mem_singleton,
    ← and_assoc]
  refine and_congr (and_congr_right fun _ => forall₂_congr fun f _ => ?_) ?_
  · exact Part.follows_iff_given (p := Field.part Slot.ofToml? f) fun w hw _ =>
      Slot.ofToml?_eq_some_iff (hv.of_member? hw) f.slot
  · exact Part.follows_iff_given (p := lintPart _) fun w hw _ =>
      toOption_eq_some_iff.trans (Lint.decode_eq_ok_iff (hv.of_member? hw))

theorem Site.exists_decode_iff (hv : v.DistinctKeys) :
    (∃ s, Site.decode v = .ok s) ↔ Site.Conforms v := by
  have hsection := exists_section_iff (s := Field.reset fields {})
    (parts_independent Slot.ofToml? fun v => (Lint.decode v).toOption) hv .site
  rw [← tomlParts, names_eq] at hsection
  simp only [Site.decode, ← toOption_eq_some_iff, toOption_bind, toOption_foldlM,
    toOption_decodeEntry]
  refine hsection.trans ?_
  rw [tomlParts, parts, List.forall_mem_append, List.forall_mem_map, List.forall_mem_singleton,
    ← and_assoc]
  refine and_congr (and_congr_right fun _ => forall₂_congr fun f _ => forall₂_congr fun w hw =>
    exists_congr fun a => ?_) (forall₂_congr fun w hw => ?_)
  · exact Slot.ofToml?_eq_some_iff (hv.of_member? hw) f.slot
  · rw [← Lint.exists_decode_iff (hv.of_member? hw)]
    exact exists_congr fun l => toOption_eq_some_iff

def Settings.tomlParts : List (Part Value Settings) :=
  parts (fun v => (Launcher.decode v).toOption) (fun v => (Submodules.decode v).toOption)
    fun v => (Site.decode v).toOption

theorem Settings.toOption_decodeEntry (s : Settings) (e : String × Value) :
    (Settings.decodeEntry s e).toOption = Part.take tomlParts s e := by
  rw [tomlParts, take_parts, Settings.decodeEntry]
  split
  · cases Launcher.decode e.2 <;> rfl
  split
  · cases Submodules.decode e.2 <;> rfl
  split
  · cases Site.decode e.2 <;> rfl
  · rfl

theorem Toml.Value.DistinctKeys.entries_nodup (h : document.DistinctKeys) :
    (document.entries.map Prod.fst).Nodup := by
  cases document with
  | table mark origin entries => exact h.keys_nodup
  | scalar | array | tables => exact .nil

theorem Toml.Value.DistinctKeys.of_entry {name : String} (h : document.DistinctKeys)
    (hv : document.entries.lookup name = some v) : v.DistinctKeys := by
  cases document with
  | table mark origin entries => exact h.of_lookup hv
  | scalar | array | tables => cases hv

theorem Settings.toOption_decode (document : Value) :
    (Settings.decode document).toOption =
      document.entries.foldlM (Part.take tomlParts) {} := by
  cases document with
  | table mark origin entries =>
    simp only [Settings.decode, toOption_foldlM, toOption_decodeEntry, Value.entries]
  | scalar | array | tables => rfl

/-- The settings of a document are the defaults, overlaid by its known keys. -/
theorem Settings.decode_eq_ok_iff {c : Settings} (h : document.DistinctKeys) :
    Settings.decode document = .ok c ↔ Settings.Overlaid document c := by
  rw [← toOption_eq_some_iff, toOption_decode, tomlParts,
    Part.foldlM_take_eq_some_iff (parts_independent ..) h.entries_nodup]
  simp only [parts, List.forall_mem_cons, List.not_mem_nil, false_imp_iff,
    implies_true, and_true]
  refine and_congr ?launcher (and_congr ?submodules ?site)
  case launcher =>
    exact Part.follows_iff_given fun v hv _ =>
      toOption_eq_some_iff.trans (Launcher.decode_eq_ok_iff (h.of_entry hv))
  case submodules =>
    exact Part.follows_iff_given fun v hv _ =>
      toOption_eq_some_iff.trans (Submodules.decode_eq_ok_iff (h.of_entry hv))
  case site =>
    exact Part.follows_iff_given fun v hv _ =>
      toOption_eq_some_iff.trans (Site.decode_eq_ok_iff (h.of_entry hv))

theorem Settings.exists_decode_iff (h : document.DistinctKeys) :
    (∃ c, Settings.decode document = .ok c) ↔ Settings.Conforms document := by
  simp only [← toOption_eq_some_iff, toOption_decode]
  rw [tomlParts, Part.exists_foldlM_take_iff (parts_independent ..) h.entries_nodup]
  simp only [parts, List.forall_mem_cons, List.not_mem_nil, false_imp_iff, implies_true, and_true,
    toOption_eq_some_iff]
  refine and_congr ?launcher (and_congr ?submodules ?site)
  case launcher =>
    exact forall₂_congr fun v hv => Launcher.exists_decode_iff (h.of_entry hv)
  case submodules =>
    exact forall₂_congr fun v hv => Submodules.exists_decode_iff (h.of_entry hv)
  case site =>
    exact forall₂_congr fun v hv => Site.exists_decode_iff (h.of_entry hv)

end Sections

section Agreement

variable {v w : Value} {v? w? : Option Value}

theorem Slot.stands_iff (x : Slot σ) {a : x.Content} (h : v.Same w) :
    x.Stands v a ↔ x.Stands w a := by
  cases x with
  | text => exact h.isText_iff
  | optional => exact exists_congr fun s => and_congr_right fun _ => h.isText_iff
  | boolean => exact h.isBoolean_iff
  | texts => exact h.isTexts_iff
  | table => exact h.isTable_iff

theorem given_iff_of_rel {α : Type} {R : Value → Value → Prop} {stands : Value → α → Prop}
    {default a : α} (h : Option.Rel R v? w?)
    (hR : ∀ v w, R v w → (stands v a ↔ stands w a)) :
    Given stands default a v? ↔ Given stands default a w? := by
  cases h with
  | none => rfl
  | some h => exact hR _ _ h

theorem Field.overlaid_iff {fields : List (Field σ)} {names : List String} {s r : σ}
    (h : Field.Alike fields names v w) :
    Field.Overlaid fields names s v r ↔ Field.Overlaid fields names s w r :=
  and_congr h.1 (forall₂_congr fun f hf =>
    given_iff_of_rel (h.2 f hf) fun _ _ => f.slot.stands_iff)

theorem Site.overlaid_iff {s : Site} (h : Site.Alike v w) :
    Site.Overlaid v s ↔ Site.Overlaid w s :=
  and_congr (Field.overlaid_iff h.1) (given_iff_of_rel h.2 fun _ _ => Field.overlaid_iff)

theorem Settings.overlaid_iff {c : Settings} (h : Settings.Alike v w) :
    Settings.Overlaid v c ↔ Settings.Overlaid w c :=
  and_congr (given_iff_of_rel h.1 fun _ _ => Field.overlaid_iff)
    (and_congr (given_iff_of_rel h.2.1 fun _ _ => Field.overlaid_iff)
      (given_iff_of_rel h.2.2 fun _ _ => Site.overlaid_iff))

end Agreement

def Setting.barren : Setting where
  cwd := []
  env := .empty
  children _ files := ⟨.error .notFound, files, "", false⟩

namespace Settings

open Activity

theorem ofText_eq_ok_iff {text : String} {document : Value} {c : Settings}
    (h : Value.ofText? text.toList = some document) :
    ofText text = .ok c ↔ Overlaid document c := by
  simp only [← decode_eq_ok_iff (Value.distinctKeys_ofText? h), ofText, h]
  cases Settings.decode document with
  | ok c' => simp only [Except.ok.injEq]
  | error m => exact ⟨(nomatch ·), (nomatch ·)⟩

theorem loadFrom_answer {setting : Setting} {files : FileSystem} {p : Path} {text : String}
    (h : files.readText setting.cwd p = .ok text) :
    (loadFrom p).answer setting files =
      (ofText text).mapError fun d => .settings (.unreadable p d) := by
  simp only [answer, loadFrom, run_bind, run_ask, h]
  exact congrArg Prod.fst (run_ofExcept ..)

theorem loadFrom_answer_eq_ok_iff {setting : Setting} {files : FileSystem} {p : Path}
    {text : String} {document : Value} {c : Settings}
    (hread : files.readText setting.cwd p = .ok text)
    (hdoc : Value.ofText? text.toList = some document) :
    (loadFrom p).answer setting files = .ok c ↔ Overlaid document c := by
  rw [loadFrom_answer hread, ← ofText_eq_ok_iff hdoc]
  cases ofText text with
  | ok c' => exact (Except.ok.injEq ..).to_iff.trans (Except.ok.injEq ..).to_iff.symm
  | error d => exact ⟨(nomatch ·), (nomatch ·)⟩

/--
A file that holds a document is read successfully just when all values at known keys conform, and it
gives the defaults, which are also what a project without a file has, overlaid by those values.
Documents that agree on the known keys give the same, in whatever order and beside whatever else the
keys stand.
-/
theorem loadFrom_overlays_defaults {setting : Setting} {files : FileSystem} {p : Path}
    {text : String} {document : Value} (hread : files.readText setting.cwd p = .ok text)
    (hdoc : Value.ofText? text.toList = some document) :
    ((∃ c, (loadFrom p).answer setting files = .ok c) ↔ Conforms document) ∧
      (∀ c, (loadFrom p).answer setting files = .ok c ↔ Overlaid document c) ∧
      (∀ (setting : Setting) (files : FileSystem) (root : ProjectRoot),
        files.isThere setting.cwd root.settingsPath = false →
          (load root).answer setting files = .ok {}) ∧
      ∀ (setting' : Setting) (files' : FileSystem) (p' : Path) (text' : String) (document' : Value),
        files'.readText setting'.cwd p' = .ok text' →
        Value.ofText? text'.toList = some document' → Alike document document' →
          ∀ c, (loadFrom p').answer setting' files' = .ok c ↔
            (loadFrom p).answer setting files = .ok c := by
  refine ⟨?conforms, fun c => loadFrom_answer_eq_ok_iff hread hdoc,
    fun _ _ _ => load_answer_of_missing, ?alike⟩
  case conforms =>
    rw [← exists_decode_iff (Value.distinctKeys_ofText? hdoc)]
    refine exists_congr fun c => ?_
    rw [loadFrom_answer_eq_ok_iff hread hdoc, decode_eq_ok_iff (Value.distinctKeys_ofText? hdoc)]
  case alike =>
    intro setting' files' p' text' document' hread' hdoc' halike c
    rw [loadFrom_answer_eq_ok_iff hread hdoc, loadFrom_answer_eq_ok_iff hread' hdoc']
    exact (overlaid_iff halike).symm

/-- A site by position, submodules by a date, and keys that are not known. -/
def oddSections : String :=
  "site = [\"Guide\"]
submodules = 2024-01-01
other.key = 1
[launcher]
extra = [[]]
builder = [\"make\"]
"

theorem loadFrom_overlays_defaults_of_odd_sections :
    ∃ document, Value.ofText? oddSections.toList = some document ∧ Conforms document ∧
      Overlaid document
        { launcher := { builder := ["make"] }, site := { project := some "Guide" } } := by
  let files : FileSystem := ⟨[(["docmake.toml"], .file oddSections.toUTF8 false)]⟩
  have hread : files.readText Setting.barren.cwd "docmake.toml" = .ok oddSections := by rfl
  have hload : (loadFrom "docmake.toml").answer Setting.barren files =
      .ok { launcher := { builder := ["make"] }, site := { project := some "Guide" } } := by
    rfl
  obtain ⟨document, hdoc⟩ : ∃ document, Value.ofText? oddSections.toList = some document :=
    ⟨_, by rfl⟩
  obtain ⟨hconforms, hoverlaid, -⟩ := loadFrom_overlays_defaults hread hdoc
  exact ⟨document, hdoc, hconforms.mp ⟨_, hload⟩, (hoverlaid _).mp hload⟩

end Settings
end DocLaunch
