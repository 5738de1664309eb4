import DocLaunch.CommandLine.Program
import DocLaunch.Machine.Child

namespace DocLaunch.Main

def placeOf (cwd p : Path) : Place :=
  (Path.normalize (Path.join cwd p)).splitOn "/" |>.filter (!·.isEmpty) |>.reverse

/-- The settings file that a command is about. -/
def settingsFile? (cwd : Path) : Command → Option Path
  | .init dir _ => some (Path.join (Path.join cwd (dir.getD "")) ProjectRoot.settingsName)
  | .run _ entry _ | .root entry | .display entry _ | .check entry =>
    (ProjectRoot.ofEntry entry cwd).toOption.map ProjectRoot.settingsPath

def addFile (cwd p : Path) (content? : Option ByteArray) (fs : FileSystem) : FileSystem :=
  match content?, placeOf cwd p with
  | some content, name :: above =>
    (fs.makeDirectories [] (Place.toPath above)).1.set (name :: above) (.file content false)
  | _, _ => fs

/-- The files of the second tree that the first has not or with other contents. -/
def changed (old new : FileSystem) : List (Path × ByteArray) :=
  new.nodes.filterMap fun e =>
    match e.2, old.node? e.1 with
    | .file content _, some (.file before _) =>
      if content.data = before.data then none else some (Place.toPath e.1, content)
    | .file content _, _ => some (Place.toPath e.1, content)
    | _, _ => none

def readFile? (p : Path) : IO (Option ByteArray) := do
  try return some (← IO.FS.readBinFile p)
  catch _ => return none

def writeFile (p : Path) (content : ByteArray) : IO Unit := do
  if let some parent := Path.parent? p then IO.FS.createDirAll parent
  IO.FS.writeBinFile p content

def environment : IO StringTable := do
  let names := ["PATH", "HOME", Program.entryVariable, Program.filterVariable]
  let entries ← names.filterMapM fun name => do
    return (← IO.getEnv name).map fun value => (name, value)
  return .ofList entries

end DocLaunch.Main

open DocLaunch in
/-- Other programs run on the built-in machine; a changed settings file is put back on the disk. -/
def main (args : List String) : IO UInt32 := do
  let env ← Main.environment
  let cwd := toString (← IO.currentDir)
  let settingsFile? := match Invocation.ofArguments (env.get? Program.entryVariable) args with
    | .ok invocation => Main.settingsFile? cwd invocation.command
    | .error _ => none
  let content? ← match settingsFile? with
    | some p => Main.readFile? p
    | none => pure none
  let machine := (Machine.initialFiles.makeDirectories [] cwd).1
  let files := Main.addFile cwd (settingsFile?.getD "") content? machine
  let setting : Setting := { cwd := Main.placeOf cwd ".", env, children := Machine.child }
  let outcome := Program.run setting files args
  for (p, content) in Main.changed files outcome.files do
    Main.writeFile p content
  IO.print outcome.output
  IO.eprint outcome.errors
  return UInt32.ofNat outcome.code
