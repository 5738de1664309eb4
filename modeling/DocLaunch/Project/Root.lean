import DocLaunch.Fault.Basic
import DocLaunch.Path.Basic

namespace DocLaunch

structure ProjectRoot where
  path : Path
  deriving DecidableEq, Repr

namespace ProjectRoot

/-- The directory that holds the entry. The path decides, not what is on the disk. -/
def ofEntry (entry cwd : Path) : Except RootFault ProjectRoot :=
  if entry.isEmpty then .error .emptyEntry
  else if !Path.isAbsolute entry && !Path.isAbsolute cwd then .error (.relativeDirectory cwd)
  else
    let place := Path.normalize (Path.join cwd entry)
    match Path.parent? place with
    | none => .error (.noContainer place)
    | some container => .ok ⟨container⟩

def join (root : ProjectRoot) (p : Path) : Path :=
  Path.join root.path p

def settingsName : String := "docmake.toml"

def settingsPath (root : ProjectRoot) : Path :=
  root.join settingsName

end ProjectRoot
end DocLaunch
