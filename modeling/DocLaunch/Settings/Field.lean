import DocLaunch.Settings.Basic

namespace DocLaunch

/-- The kind of a field, with the way to get it and to set it. -/
inductive Slot (σ : Type) where
  | text (get : σ → String) (set : String → σ → σ)
  | optional (get : σ → Option String) (set : Option String → σ → σ)
  | boolean (get : σ → Bool) (set : Bool → σ → σ)
  | texts (get : σ → List String) (set : List String → σ → σ)
  | table (get : σ → StringTable) (set : StringTable → σ → σ)

namespace Slot

variable {σ : Type}

/-- What a field of the kind holds. -/
def Content : Slot σ → Type
  | text .. => String
  | optional .. => Option String
  | boolean .. => Bool
  | texts .. => List String
  | table .. => StringTable

def get : (x : Slot σ) → σ → x.Content
  | text get _ => get
  | optional get _ => get
  | boolean get _ => get
  | texts get _ => get
  | table get _ => get

def set : (x : Slot σ) → x.Content → σ → σ
  | text _ set => set
  | optional _ set => set
  | boolean _ set => set
  | texts _ set => set
  | table _ set => set

end Slot

/-- A field under the name by which files and builders know it. -/
structure Field (σ : Type) where
  name : String
  slot : Slot σ
  /-- What the field holds where its section says nothing of it. -/
  default : slot.Content

def Field.find? {σ : Type} (fields : List (Field σ)) (name : String) : Option (Field σ) :=
  fields.find? fun f => f.name == name

/-- Every field as it is where nothing is said of it. -/
def Field.reset {σ : Type} (fields : List (Field σ)) (s : σ) : σ :=
  fields.foldl (fun s f => f.slot.set f.default s) s

def Launcher.fields : List (Field Launcher) := [
  ⟨"builder", .texts (·.builder) (fun v l => { l with builder := v }), []⟩,
  ⟨"env", .table (·.env) (fun v l => { l with env := v }), StringTable.empty⟩]

def Submodules.fields : List (Field Submodules) := [
  ⟨"sync", .boolean (·.sync) (fun v s => { s with sync := v }), false⟩,
  ⟨"git", .text (·.git) (fun v s => { s with git := v }), "git"⟩,
  ⟨"recursive", .boolean (·.recursive) (fun v s => { s with recursive := v }), false⟩,
  ⟨"paths", .texts (·.paths) (fun v s => { s with paths := v }), []⟩]

def Lint.fields : List (Field Lint) := [
  ⟨"alphabetical_section_titles",
    .texts (·.alphabeticalSectionTitles)
      (fun v l => { l with alphabeticalSectionTitles := v }), []⟩,
  ⟨"no_paragraph_ids", .texts (·.noParagraphIds) (fun v l => { l with noParagraphIds := v }), []⟩]

/-- The fields of the site but for the last one, `lint`, which is a section of its own. -/
def Site.fields : List (Field Site) := [
  ⟨"project", .optional (·.project) (fun v s => { s with project := v }), none⟩,
  ⟨"author", .optional (·.author) (fun v s => { s with author := v }), none⟩,
  ⟨"copyright", .optional (·.copyright) (fun v s => { s with copyright := v }), none⟩,
  ⟨"source_dir", .text (·.sourceDir) (fun v s => { s with sourceDir := v }), "src"⟩,
  ⟨"extensions", .texts (·.extensions) (fun v s => { s with extensions := v }), []⟩,
  ⟨"substitutions_path",
    .optional (·.substitutionsPath) (fun v s => { s with substitutionsPath := v }), none⟩,
  ⟨"target_names_path",
    .optional (·.targetNamesPath) (fun v s => { s with targetNamesPath := v }), none⟩,
  ⟨"document_id", .optional (·.documentId) (fun v s => { s with documentId := v }), none⟩,
  ⟨"theme", .optional (·.theme) (fun v s => { s with theme := v }), none⟩,
  ⟨"theme_path", .texts (·.themePath) (fun v s => { s with themePath := v }), []⟩,
  ⟨"theme_options",
    .table (·.themeOptions) (fun v s => { s with themeOptions := v }), StringTable.empty⟩,
  ⟨"html_title", .optional (·.htmlTitle) (fun v s => { s with htmlTitle := v }), none⟩,
  ⟨"html_short_title",
    .optional (·.htmlShortTitle) (fun v s => { s with htmlShortTitle := v }), none⟩,
  ⟨"templates_path", .texts (·.templatesPath) (fun v s => { s with templatesPath := v }), []⟩,
  ⟨"exclude_patterns", .texts (·.excludePatterns) (fun v s => { s with excludePatterns := v }), []⟩]

end DocLaunch
