import DocLaunch.Settings.Field
import DocLaunch.Toml.Printer

namespace DocLaunch

open Toml

/-- The entry of a field that has a plain value; unset fields have none. -/
def Field.entry? {σ : Type} (s : σ) (f : Field σ) : Option (String × Plain) :=
  match f.slot with
  | .text get _ => some (f.name, .text (get s))
  | .optional get _ => (get s).map fun v => (f.name, .text v)
  | .boolean get _ => some (f.name, .boolean (get s))
  | .texts get _ => some (f.name, .texts (get s))
  | .table _ _ => none

/-- The section of a field that is a table. -/
def Field.section? {σ : Type} (path : List String) (s : σ) (f : Field σ) : Option Section :=
  match f.slot with
  | .table get _ =>
    some ⟨path ++ [f.name], (get s).entries.map fun e => (e.1, .text e.2)⟩
  | _ => none

/-- A section and the sections of its tables. -/
def Field.sections {σ : Type} (path : List String) (fields : List (Field σ)) (s : σ) :
    List Section :=
  ⟨path, fields.filterMap (Field.entry? s)⟩ :: fields.filterMap (Field.section? path s)

def Settings.sections (s : Settings) : List Section :=
  Field.sections ["launcher"] Launcher.fields s.launcher ++
    Field.sections ["submodules"] Submodules.fields s.submodules ++
    Field.sections ["site"] Site.fields s.site ++
    Field.sections ["site", "lint"] Lint.fields s.site.lint

def Settings.toToml (s : Settings) : String :=
  String.ofList (writeSections s.sections)

end DocLaunch
