import DocLaunch.Fault.System
import DocLaunch.Path.Basic
import DocLaunch.Settings.Decode

namespace DocLaunch

inductive RootFault where
  | emptyEntry
  | relativeDirectory (cwd : Path)
  | noContainer (entry : Path)
  deriving DecidableEq, Repr

inductive SiteFault where
  | blankProject
  | badDocumentId (id : String)
  | blankExtension
  | repeatedExtension (name : String)
  | notRelative (field value : String)
  | leavesRoot (field value : String)
  deriving DecidableEq, Repr

inductive ValidationFault where
  | root (f : RootFault)
  | site (f : SiteFault)
  | stated (text : String)
  deriving DecidableEq, Repr

/-- What is wrong with the settings or their file. -/
inductive SettingsFault where
  | noBuilder
  | blankProgram
  | unreadable (path : Path) (d : Diagnosis)
  | alreadyExists (path : Path)
  | stated (text : String)
  deriving DecidableEq, Repr

inductive Fault where
  | settings (f : SettingsFault)
  | validation (f : ValidationFault)
  | file (path : Path) (cause : SystemFault)
  | spawn (program : String) (cause : SystemFault)
  /-- A child that ended without success. -/
  | syncFailed (command : String) (code : Int)
  | buildFailed (command : String) (code : Int)
  /-- The root has no settings file to check. -/
  | noSettingsFile (root : Path)
  deriving DecidableEq, Repr

def RootFault.message : RootFault → String
  | .emptyEntry => "entry path is empty"
  | .relativeDirectory cwd => "working directory '" ++ cwd ++ "' is not absolute"
  | .noContainer entry => "entry '" ++ entry ++ "' has no containing directory"

def SiteFault.message : SiteFault → String
  | .blankProject => "site.project must not be empty"
  | .badDocumentId id =>
    "site.document_id '" ++ id ++
      "' must be 2-8 uppercase letters or digits, starting with a letter"
  | .blankExtension => "site.extensions contains an empty name"
  | .repeatedExtension name => "site.extensions lists '" ++ name ++ "' more than once"
  | .notRelative field value => field ++ " '" ++ value ++ "' must be a non-empty relative path"
  | .leavesRoot field value => field ++ " '" ++ value ++ "' must not leave the project root"

def ValidationFault.message : ValidationFault → String
  | .root f => f.message
  | .site f => f.message
  | .stated text => text

def SettingsFault.message : SettingsFault → String
  | .noBuilder =>
    "no builder configured; set `builder` in the [launcher] section of docmake.toml"
  | .blankProgram => "launcher.builder program is empty"
  | .unreadable path d => "failed to parse " ++ path ++ ": " ++ d.message
  | .alreadyExists path => path ++ " already exists; pass --force to overwrite it"
  | .stated text => text

namespace Fault

def message : Fault → String
  | settings f => "config error: " ++ f.message
  | validation f => "validation error: " ++ f.message
  | file path cause => "I/O error at " ++ Text.quoted path ++ ": " ++ cause.message
  | spawn program cause => "failed to run `" ++ program ++ "`: " ++ cause.message
  | syncFailed command code | buildFailed command code =>
    "`" ++ command ++ "` exited with status " ++ toString code
  | noSettingsFile root =>
    "no docmake.toml found in '" ++ root ++ "'; run `docmake config init " ++ root ++
      "` to create one"

def cause? : Fault → Option SystemFault
  | file _ cause | spawn _ cause => some cause
  | _ => none

def childCode? : Fault → Option Int
  | syncFailed _ code | buildFailed _ code => some code
  | _ => none

/-- The lines of an error report: the fault, then its cause. -/
def report (f : Fault) : List String :=
  f.message :: (f.cause?.map SystemFault.message).toList

end Fault
end DocLaunch
