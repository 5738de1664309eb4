import DocLaunch.Project.Root
import DocLaunch.Settings.Json
import DocLaunch.Text.Basic
import DocLaunch.World.Activity

namespace DocLaunch

structure Builder where
  program : String
  fixedArgs : List String
  env : StringTable := .empty
  /-- The declaration of the site, where there is one to hand over. -/
  siteText : Option String := none
  deriving DecidableEq

namespace Builder

def ofCommand : List String → Except SettingsFault Builder
  | [] => .error .noBuilder
  | program :: fixedArgs =>
    if Text.isBlankText program then .error .blankProgram else .ok { program, fixedArgs }

def ofSettings (s : Settings) : Except SettingsFault Builder := do
  let b ← ofCommand s.launcher.builder
  return { b with env := s.launcher.env, siteText := some s.site.toJsonText }

/-- The fixed arguments, the root, then what is forwarded. -/
def arguments (b : Builder) (root : ProjectRoot) (forwarded : List String) : List String :=
  b.fixedArgs ++ root.path :: forwarded

def rootVariable : String := "DOCMAKE_ROOT"

def siteVariable : String := "DOCMAKE_SITE_CONFIG"

/-- The inherited variables, those of the settings, and above all those of the launcher itself. -/
def environment (b : Builder) (inherited : StringTable) (root : ProjectRoot) : StringTable :=
  let env := (inherited.insertAll b.env.entries).insert rootVariable root.path
  match b.siteText with
  | none => env
  | some text => env.insert siteVariable text

/-- The process to start, in the directory of the caller. -/
def spawn (b : Builder) (s : Setting) (root : ProjectRoot) (forwarded : List String) : Spawn :=
  ⟨b.program, b.arguments root forwarded, b.environment s.env root, s.cwd.toPath,
    (b.env.get? "PATH").isSome⟩

def area : String := "docmake_core::builder"

def span (b : Builder) (root : ProjectRoot) : Span :=
  ⟨area, "build", [("root", .text root.path), ("program", .text b.program)]⟩

def build (b : Builder) (root : ProjectRoot) (forwarded : List String) : Activity Int :=
    Activity.within (b.span root) do
  let shown := Spawn.commandText b.program (b.arguments root forwarded)
  Activity.log .info area "delegating to documentation builder" [("command", .text shown)]
  let status ← Activity.start (b.spawn (← read) root forwarded)
  if !status.succeeded then
    Activity.log .debug area "builder failed" [("code", .number status.exitCode)]
    throw (.buildFailed shown status.exitCode)
  return status.exitCode

end Builder
end DocLaunch
