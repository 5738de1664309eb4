import DocLaunch.Json.Basic
import DocLaunch.Settings.Field
import DocLaunch.Text.Quoted
import DocLaunch.Toml.Document

namespace DocLaunch

/-- What stands where something else was expected. -/
inductive Found where
  | text (s : String)
  | integer (i : Int)
  | decimal (x : Binary64)
  | boolean (b : Bool)
  | sequence
  | map
  deriving DecidableEq, Repr

/-- What a field accepts. -/
inductive Shape where
  | text
  | boolean
  | sequence
  | map
  | launcher
  | submodules
  | site
  | lint
  deriving DecidableEq, Repr

structure Mismatch where
  mark : Nat
  found : Found
  expected : Shape
  deriving DecidableEq, Repr

def Found.message : Found → String
  | .text s => "string " ++ Text.quoted s
  | .integer i => "integer `" ++ String.ofList (Json.writeInt i) ++ "`"
  | .decimal x => "floating point `" ++ x.toText ++ "`"
  | .boolean b => "boolean `" ++ (if b then "true" else "false") ++ "`"
  | .sequence => "sequence"
  | .map => "map"

def Shape.message : Shape → String
  | .text => "a string"
  | .boolean => "a boolean"
  | .sequence => "a sequence"
  | .map => "a map"
  | .launcher => "struct LauncherConfig"
  | .submodules => "struct SubmodulesConfig"
  | .site => "struct SiteConfig"
  | .lint => "struct LintConfig"

namespace Toml

/-- Dates and times count as maps. -/
def Scalar.found : Scalar → Found
  | .text s => .text s
  | .integer i => .integer i
  | .decimal x => .decimal x
  | .boolean b => .boolean b
  | .moment _ => .map

def Value.found : Value → Found
  | .scalar _ s => s.found
  | .array .. | .tables .. => .sequence
  | .table .. => .map

def Value.mismatch (v : Value) (expected : Shape) : Mismatch :=
  ⟨v.mark, v.found, expected⟩

def Value.asText : Value → Except Mismatch String
  | .scalar _ (.text s) => .ok s
  | v => .error (v.mismatch .text)

def Value.asBoolean : Value → Except Mismatch Bool
  | .scalar _ (.boolean b) => .ok b
  | v => .error (v.mismatch .boolean)

def Value.asTexts : Value → Except Mismatch (List String)
  | .array _ items | .tables _ items => items.mapM Value.asText
  | v => .error (v.mismatch .sequence)

def momentKey : String := "$__toml_private_datetime"

def Value.asTable : Value → Except Mismatch StringTable
  | .table _ _ entries => do
    let entries ← entries.mapM fun e => do return (e.1, ← e.2.asText)
    return .ofList entries
  | .scalar _ (.moment m) => .ok (.ofList [(momentKey, String.ofList m.toText)])
  | v => .error (v.mismatch .map)

/--
The entries of a section. Items of an array stand for the named fields in order; those beyond the
last name are left out.
-/
def Value.asSection (shape : Shape) (names : List String) : Value → Except Mismatch Entries
  | .table _ _ entries => .ok entries
  | .array _ items | .tables _ items => .ok (names.zip items)
  | .scalar _ (.moment _) => .ok []
  | v => .error (v.mismatch shape)

end Toml

open Toml

def Slot.decode {σ : Type} (v : Value) (s : σ) : Slot σ → Except Mismatch σ
  | .text _ set => do return set (← v.asText) s
  | .optional _ set => do return set (some (← v.asText)) s
  | .boolean _ set => do return set (← v.asBoolean) s
  | .texts _ set => do return set (← v.asTexts) s
  | .table _ set => do return set (← v.asTable) s

/-- Set the field that an entry names; other entries change nothing. -/
def Field.decode {σ : Type} (fields : List (Field σ)) (s : σ) (e : String × Value) :
    Except Mismatch σ :=
  match Field.find? fields e.1 with
  | none => .ok s
  | some f => f.slot.decode e.2 s

def Field.names {σ : Type} (fields : List (Field σ)) : List String :=
  fields.map (·.name)

def Launcher.decode (v : Value) : Except Mismatch Launcher := do
  let entries ← v.asSection .launcher (Field.names Launcher.fields)
  entries.foldlM (Field.decode Launcher.fields) (Field.reset Launcher.fields {})

def Submodules.decode (v : Value) : Except Mismatch Submodules := do
  let entries ← v.asSection .submodules (Field.names Submodules.fields)
  entries.foldlM (Field.decode Submodules.fields) (Field.reset Submodules.fields {})

def Lint.decode (v : Value) : Except Mismatch Lint := do
  let entries ← v.asSection .lint (Field.names Lint.fields)
  entries.foldlM (Field.decode Lint.fields) (Field.reset Lint.fields {})

def Site.decodeEntry (s : Site) (e : String × Value) : Except Mismatch Site :=
  if e.1 = "lint" then do return { s with lint := ← Lint.decode e.2 }
  else Field.decode Site.fields s e

def Site.decode (v : Value) : Except Mismatch Site := do
  let entries ← v.asSection .site (Field.names Site.fields ++ ["lint"])
  entries.foldlM Site.decodeEntry (Field.reset Site.fields {})

def Settings.decodeEntry (s : Settings) (e : String × Value) : Except Mismatch Settings :=
  if e.1 = "launcher" then do return { s with launcher := ← Launcher.decode e.2 }
  else if e.1 = "submodules" then do return { s with submodules := ← Submodules.decode e.2 }
  else if e.1 = "site" then do return { s with site := ← Site.decode e.2 }
  else .ok s

/-- The settings that the table of a whole document gives. -/
def Settings.decode : Value → Except Mismatch Settings
  | .table _ _ entries => entries.foldlM Settings.decodeEntry {}
  | _ => .ok {}

/-- Why a text holds no settings. -/
inductive Diagnosis where
  | malformed
  | mismatch (line column : Nat) (found : Found) (expected : Shape)
  deriving DecidableEq, Repr

def Diagnosis.message : Diagnosis → String
  | .malformed => "TOML parse error"
  | .mismatch line column found expected =>
    "TOML parse error at line " ++ toString line ++ ", column " ++ toString column ++
      ": invalid type: " ++ found.message ++ ", expected " ++ expected.message

/-- The settings that a text holds. The whole text is read before any shape is looked at. -/
def Settings.ofText (text : String) : Except Diagnosis Settings :=
  match Value.ofText? text.toList with
  | none => .error .malformed
  | some document =>
    match Settings.decode document with
    | .ok s => .ok s
    | .error m =>
      let (line, column) := position text.toList m.mark
      .error (.mismatch line column m.found m.expected)

end DocLaunch
