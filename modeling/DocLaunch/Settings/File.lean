import DocLaunch.Project.Root
import DocLaunch.Settings.Rules
import DocLaunch.World.Activity

namespace DocLaunch.Settings

/-- The part of the program that log filters know these activities by. -/
def area : String := "docmake_shared::config"

def loadFrom (p : Path) : Activity Settings := do
  let text ← Activity.ofExcept (.file p) (← Activity.ask FileSystem.readText p)
  Activity.ofExcept (fun d => .settings (.unreadable p d)) (ofText text)

/-- The settings of a project, or the defaults where there is no file. -/
def load (root : ProjectRoot) : Activity Settings := do
  let p := root.settingsPath
  if ← Activity.ask FileSystem.isThere p then loadFrom p
  else
    Activity.log .debug area "config file not found, using defaults"
      [("path", .text (Text.quoted p))]
    return {}

def template : String :=
  "# docmake project configuration.

[launcher]
# Program and fixed arguments of the documentation builder.
# The project root is appended, followed by any forwarded arguments.
builder = [\"uv\", \"run\", \"docs-make\"]

[submodules]
# Run `git submodule update --init` in the project root before building.
sync = false

[site]
project = \"Documentation\"
source_dir = \"src\"
extensions = []
"

/-- Make a settings file in a directory, which is made too if it is missing. -/
def init (dir : Path) (force : Bool) : Activity Path := do
  let (files, made) := FileSystem.makeDirectories (← Activity.files) (← Activity.cwd) dir
  Activity.setFiles files
  Activity.ofExcept (.file dir) made
  let p := Path.join dir ProjectRoot.settingsName
  if (← Activity.ask FileSystem.isThere p) && !force then throw (.settings (.alreadyExists p))
  let written := (← Activity.files).writeText (← Activity.cwd) p template
  Activity.setFiles (← Activity.ofExcept (.file p) written)
  Activity.log .info area "created default config file" [("path", .text (Text.quoted p))]
  return p

def noteMissing (field : String) (p : Path) : Activity Unit := do
  if !(← Activity.ask FileSystem.isThere p) then
    Activity.log .debug area "referenced data file does not exist"
      [("field", .text field), ("path", .text (Text.quoted p))]

def checkData (root : ProjectRoot) (sourceDir : String) : List (String × String) → Activity Unit
  | [] => pure ()
  | (field, value) :: rest => do
    Activity.ofExcept (fun f => .validation (.site f)) (Site.checkBelow field value)
    noteMissing field (Path.join (root.join sourceDir) value)
    checkData root sourceDir rest

/-- Check the declaration of a site. Missing data files are no fault. -/
def validate (root : ProjectRoot) (s : Site) : Activity Unit := do
  Activity.ofExcept (fun f => .validation (.site f)) s.checkDeclaration
  checkData root s.sourceDir s.dataPaths

end DocLaunch.Settings
