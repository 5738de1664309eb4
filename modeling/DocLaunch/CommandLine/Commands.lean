import DocLaunch.CommandLine.Arguments
import DocLaunch.Launch.Basic
import DocLaunch.Settings.File
import DocLaunch.Settings.Show

namespace DocLaunch.Program

def area : String := "docmake::commands"

/-- The root of an entry that is given from the working directory. -/
def resolveRoot (entry : Path) : Activity ProjectRoot := do
  Activity.ofExcept (fun f => .validation (.root f))
    (ProjectRoot.ofEntry entry (← Activity.cwd).toPath)

/-- Codes that a process cannot end with become 1. -/
def exitByte (code : Int) : Nat :=
  if 0 ≤ code ∧ code ≤ 255 then code.toNat else 1

/-- The code of a child that failed becomes the code of the program; the child has said why. -/
def passOn (f : Fault) : Activity Int :=
  match f.childCode? with
  | none => throw f
  | some code => do
    Activity.log .debug area "forwarding subprocess exit code" [("error", .text f.message)]
    return code

/-- All that a launch needs, checked before anything is started. -/
def prepare (entry : Path) (sync : Option Bool) (forwarded : List String) :
    Activity (ProjectRoot × LaunchOptions × LaunchSteps Activity) := do
  let root ← resolveRoot entry
  let settings ← Settings.load root
  Settings.validate root settings.site
  let options := ((LaunchOptions.ofSettings settings).overrideSync sync).forward forwarded
  let builder ← Activity.ofExcept .settings (Builder.ofSettings settings)
  return (root, options, .processes settings.submodules builder)

def runLaunch (entry : Path) (sync : Option Bool) (forwarded : List String) : Activity Int := do
  let (root, options, steps) ← prepare entry sync forwarded
  Activity.log .info area "launching documentation build"
    [("root", .text root.path), ("sync", .flag options.sync),
      ("forwarded", .number options.forwarded.length)]
  tryCatch (Activity.within (LaunchSteps.span root options) do
    return (← steps.launch root options).exitCode) passOn

def runRoot (entry : Path) : Activity Int := do
  Activity.printLine (← resolveRoot entry).path
  return 0

/-- The settings file is made in the working directory if no other is given. -/
def runInit (dir : Option Path) (force : Bool) : Activity Int := do
  let dir := dir.getD (← Activity.cwd).toPath
  Activity.printLine ("Config initialized at: " ++ (← Settings.init dir force))
  return 0

def runDisplay (entry : Path) (json : Bool) : Activity Int := do
  let settings ← Settings.load (← resolveRoot entry)
  Activity.printLine (if json then settings.toJsonText else settings.toToml)
  return 0

def runCheck (entry : Path) : Activity Int := do
  let root ← resolveRoot entry
  let p := root.settingsPath
  if !(← Activity.ask FileSystem.isThere p) then throw (.noSettingsFile root.path)
  let settings ← Settings.load root
  Settings.validate root settings.site
  let _ ← Activity.ofExcept .settings (Builder.ofCommand settings.launcher.builder)
  Activity.printLine (p ++ " is valid")
  return 0

def perform : Command → Activity Int
  | .run sync entry forwarded => runLaunch entry sync forwarded
  | .root entry => runRoot entry
  | .init dir force => runInit dir force
  | .display entry json => runDisplay entry json
  | .check entry => runCheck entry

end DocLaunch.Program
