import DocLaunch.Launch.Builder

namespace DocLaunch

structure LaunchOptions where
  sync : Bool
  forwarded : List String
  deriving DecidableEq, Repr

namespace LaunchOptions

def ofSettings (s : Settings) : LaunchOptions :=
  ⟨s.submodules.sync, []⟩

/-- Override the choice to sync, if there is something to override it with. -/
def overrideSync (o : LaunchOptions) : Option Bool → LaunchOptions
  | none => o
  | some sync => { o with sync }

def forward (o : LaunchOptions) (args : List String) : LaunchOptions :=
  { o with forwarded := args }

end LaunchOptions

namespace Submodules

/-- The arguments of the version control program. Paths stand behind a double dash. -/
def arguments (s : Submodules) : List String :=
  ["submodule", "update", "--init"] ++ (if s.recursive then ["--recursive"] else []) ++
    (if s.paths.isEmpty then [] else "--" :: s.paths)

/-- The process to start: in the root, with the environment as it is. -/
def spawn (s : Submodules) (env : StringTable) (root : ProjectRoot) : Spawn :=
  ⟨s.git, s.arguments, env, root.path, false⟩

def area : String := "docmake_core::submodules"

def span (root : ProjectRoot) : Span :=
  ⟨area, "sync", [("root", .text root.path)]⟩

def update (s : Submodules) (root : ProjectRoot) : Activity Unit := Activity.within (span root) do
  let shown := Spawn.commandText s.git s.arguments
  Activity.log .info area "synchronizing submodules" [("command", .text shown)]
  let status ← Activity.start (s.spawn (← read).env root)
  if !status.succeeded then
    Activity.log .debug area "submodule sync failed" [("code", .number status.exitCode)]
    throw (.syncFailed shown status.exitCode)

end Submodules

/-- What a launch that went through gives. -/
structure Launched where
  exitCode : Int
  synced : Bool
  deriving DecidableEq, Repr

/-- The parts of a launch, in any monad. -/
structure LaunchSteps (m : Type → Type) where
  sync : ProjectRoot → m Unit
  build : ProjectRoot → List String → m Int
  finished : m Unit

/-- A failed step ends the launch; nothing is tried twice. -/
def LaunchSteps.launch {m : Type → Type} [Monad m] (steps : LaunchSteps m) (root : ProjectRoot)
    (o : LaunchOptions) : m Launched := do
  if o.sync then steps.sync root
  let exitCode ← steps.build root o.forwarded
  steps.finished
  return ⟨exitCode, o.sync⟩

namespace LaunchSteps

def area : String := "docmake_core::entrypoint"

def processes (s : Submodules) (b : Builder) : LaunchSteps Activity where
  sync := s.update
  build := b.build
  finished := Activity.log .info area "documentation build finished" [("elapsed_ms", .elapsed)]

def span (root : ProjectRoot) (o : LaunchOptions) : Span :=
  ⟨area, "launch", [("root", .text root.path), ("sync", .flag o.sync)]⟩

end LaunchSteps

end DocLaunch
