import DocLaunch.Fault.Basic
import DocLaunch.FileSystem.Access
import DocLaunch.World.Event

namespace DocLaunch

/-- Where a command runs, and how the programs behave that it may start. -/
structure Setting where
  cwd : Place
  env : StringTable
  children : Spawn → FileSystem → Child
  /-- The work that is under way, the inmost first. -/
  spans : List Span := []

structure World where
  files : FileSystem
  events : List Event

/-- An activity that may fail; what it did before stays done. -/
abbrev Activity := ReaderT Setting (ExceptT Fault (StateM World))

namespace Activity

def run {α : Type} (t : Activity α) (s : Setting) (w : World) : Except Fault α × World :=
  StateT.run (ExceptT.run (ReaderT.run t s)) w

def emit (e : Event) : Activity Unit :=
  modify fun w => { w with events := w.events ++ [e] }

def log (level : Level) (area message : String) (fields : List (String × LogValue)) :
    Activity Unit := do
  emit (.logged ⟨level, area, message, fields, (← read).spans⟩)

/-- An activity whose log entries lie in a span. -/
def within {α : Type} (span : Span) (t : Activity α) : Activity α :=
  ReaderT.adapt (fun s => { s with spans := span :: s.spans }) t

def printLine (text : String) : Activity Unit :=
  emit (.printed (text ++ "\n"))

def cwd : Activity Place := do
  return (← read).cwd

def files : Activity FileSystem := do
  return (← get).files

def setFiles (files : FileSystem) : Activity Unit :=
  modify fun w => { w with files }

/-- Look at the files through a question about a path. -/
def ask {α : Type} (question : FileSystem → Place → Path → α) (p : Path) : Activity α := do
  return question (← files) (← cwd) p

/-- Go on with an answer, or fail with its fault. -/
def ofExcept {ε α : Type} (fault : ε → Fault) : Except ε α → Activity α
  | .ok a => pure a
  | .error e => throw (fault e)

/-- What a child does, unless its command cannot even be passed on. -/
def attempt (s : Spawn) : Activity Child := do
  if s.holdsNul then return ⟨.error .nulInCommand, ← files, "", false⟩
  else return (← read).children s (← files)

def start (s : Spawn) : Activity WaitStatus := do
  let child ← attempt s
  setFiles child.files
  emit (.started s child)
  ofExcept (.spawn s.shownProgram) child.result

end Activity
end DocLaunch
