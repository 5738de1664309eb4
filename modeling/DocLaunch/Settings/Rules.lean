import DocLaunch.Fault.Basic
import DocLaunch.Text.Basic

namespace DocLaunch

namespace Site

/-- Two to eight upper case letters or digits, the first a letter. -/
def isDocumentId (id : String) : Bool :=
  match id.toList with
  | [] => false
  | c :: rest =>
    c.isUpper && rest.all (fun c => c.isUpper || c.isDigit) && 1 ≤ rest.length && rest.length ≤ 7

/-- A name is neither blank nor one of those before it. -/
def checkExtensions : List String → List String → Except SiteFault Unit
  | _, [] => .ok ()
  | seen, name :: names =>
    if Text.isBlankText name then .error .blankExtension
    else if seen.contains name then .error (.repeatedExtension name)
    else checkExtensions (name :: seen) names

/-- A path below a directory, as far as its text tells. -/
def checkBelow (field value : String) : Except SiteFault Unit :=
  if value.isEmpty || Path.isAbsolute value then .error (.notRelative field value)
  else if (Path.segments value).contains .parent then .error (.leavesRoot field value)
  else .ok ()

/-- The data files that a site names, with the fields that name them. -/
def dataPaths (s : Site) : List (String × String) :=
  (s.substitutionsPath.map fun v => ("site.substitutions_path", v)).toList ++
    (s.targetNamesPath.map fun v => ("site.target_names_path", v)).toList

def checkProject : Option String → Except SiteFault Unit
  | some project => if Text.isBlankText project then .error .blankProject else .ok ()
  | none => .ok ()

def checkDocumentId : Option String → Except SiteFault Unit
  | some id => if isDocumentId id then .ok () else .error (.badDocumentId id)
  | none => .ok ()

/-- The rules of all but the data files. -/
def checkDeclaration (s : Site) : Except SiteFault Unit := do
  checkProject s.project
  checkDocumentId s.documentId
  checkExtensions [] s.extensions
  checkBelow "site.source_dir" s.sourceDir

def check (s : Site) : Except SiteFault Unit := do
  s.checkDeclaration
  s.dataPaths.forM fun p => checkBelow p.1 p.2

end Site
end DocLaunch
