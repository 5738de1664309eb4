import DocLaunch.Json.Reader
import DocLaunch.Settings.Field

namespace DocLaunch

def StringTable.toJson (t : StringTable) : Json :=
  .object (t.entries.map fun e => (e.1, .string e.2))

def Field.toJson? {σ : Type} (s : σ) (f : Field σ) : Option (String × Json) :=
  match f.slot with
  | .text get _ => some (f.name, .string (get s))
  | .optional get _ => (get s).map fun v => (f.name, .string v)
  | .boolean get _ => some (f.name, .boolean (get s))
  | .texts get _ => some (f.name, .array ((get s).map .string))
  | .table get _ => some (f.name, (get s).toJson)

def Field.jsonFields {σ : Type} (fields : List (Field σ)) (s : σ) : List (String × Json) :=
  fields.filterMap (Field.toJson? s)

def Launcher.toJson (l : Launcher) : Json :=
  .object (Field.jsonFields Launcher.fields l)

def Submodules.toJson (s : Submodules) : Json :=
  .object (Field.jsonFields Submodules.fields s)

def Lint.toJson (l : Lint) : Json :=
  .object (Field.jsonFields Lint.fields l)

def Site.toJson (s : Site) : Json :=
  .object (Field.jsonFields Site.fields s ++ [("lint", s.lint.toJson)])

def Settings.toJson (s : Settings) : Json :=
  .object [("launcher", s.launcher.toJson), ("submodules", s.submodules.toJson),
    ("site", s.site.toJson)]

def Site.toJsonText (s : Site) : String :=
  String.ofList s.toJson.compact

def Settings.toJsonText (s : Settings) : String :=
  String.ofList (s.toJson.pretty 0)

namespace Json

def asText? : Json → Option String
  | string s => some s
  | _ => none

def asBoolean? : Json → Option Bool
  | boolean b => some b
  | _ => none

def asTexts? : Json → Option (List String)
  | array items => items.mapM asText?
  | _ => none

def asTable? : Json → Option StringTable
  | object fields => do
    let entries ← fields.mapM fun e => do return (e.1, ← e.2.asText?)
    return .ofList entries
  | _ => none

end Json

/-- Set a field from JSON; null unsets an optional one. -/
def Slot.ofJson? {σ : Type} (v : Json) (s : σ) : Slot σ → Option σ
  | .text _ set => do return set (← v.asText?) s
  | .optional _ set =>
    match v with
    | .null => some (set none s)
    | v => do return set (some (← v.asText?)) s
  | .boolean _ set => do return set (← v.asBoolean?) s
  | .texts _ set => do return set (← v.asTexts?) s
  | .table _ set => do return set (← v.asTable?) s

def Field.ofJson? {σ : Type} (fields : List (Field σ)) (s : σ) (e : String × Json) : Option σ :=
  match Field.find? fields e.1 with
  | none => some s
  | some f => f.slot.ofJson? e.2 s

/-- A section from an object, entry by entry. -/
def Field.sectionOfJson? {σ : Type} (entry : σ → String × Json → Option σ) (start : σ) :
    Json → Option σ
  | .object fields => fields.foldlM entry start
  | _ => none

def Launcher.ofJson? : Json → Option Launcher :=
  Field.sectionOfJson? (Field.ofJson? Launcher.fields) (Field.reset Launcher.fields {})

def Submodules.ofJson? : Json → Option Submodules :=
  Field.sectionOfJson? (Field.ofJson? Submodules.fields) (Field.reset Submodules.fields {})

def Lint.ofJson? : Json → Option Lint :=
  Field.sectionOfJson? (Field.ofJson? Lint.fields) (Field.reset Lint.fields {})

def Site.entryOfJson? (s : Site) (e : String × Json) : Option Site :=
  if e.1 = "lint" then do return { s with lint := ← Lint.ofJson? e.2 }
  else Field.ofJson? Site.fields s e

def Site.ofJson? : Json → Option Site :=
  Field.sectionOfJson? Site.entryOfJson? (Field.reset Site.fields {})

def Settings.entryOfJson? (s : Settings) (e : String × Json) : Option Settings :=
  if e.1 = "launcher" then do return { s with launcher := ← Launcher.ofJson? e.2 }
  else if e.1 = "submodules" then do return { s with submodules := ← Submodules.ofJson? e.2 }
  else if e.1 = "site" then do return { s with site := ← Site.ofJson? e.2 }
  else some s

def Settings.ofJson? : Json → Option Settings :=
  Field.sectionOfJson? Settings.entryOfJson? {}

def Site.ofJsonText? (text : String) : Option Site :=
  (Json.ofText? text.toList).bind Site.ofJson?

def Settings.ofJsonText? (text : String) : Option Settings :=
  (Json.ofText? text.toList).bind Settings.ofJson?

end DocLaunch
