import DocLaunch.Shell.Session
import DocLaunch.Tool.Table

namespace DocLaunch.Machine

def shellNames : List String := ["sh", "dash"]

def initialFiles : FileSystem :=
  let directories := ["usr", "tmp", "dev", "etc", "home", "root", "var"].map ([·])
  let programs := (shellNames ++ Tool.names).map fun name =>
    ([name, "bin", "usr"], Node.file (toolFile name) true)
  ⟨(["bin", "usr"] :: directories).map (·, .directory) ++ programs ++
    [(["bin"], .link "usr/bin"), (["null", "dev"], .file .empty false)]⟩

def initialEnvironment : StringTable :=
  .ofList [("PATH", "/usr/local/sbin:/usr/local/bin:/usr/sbin:/usr/bin:/sbin:/bin")]

/-- A signal that ends a process which has been sent it. -/
def deadlySignal? (p : Process) : Option Nat :=
  (p.world.signals.find? fun (id, signal) =>
    id == p.id && !harmless.contains signal &&
      (certain.contains signal || !p.ignored.contains signal)).map Prod.snd

/-- Run a program that has been found. Programs start each other no deeper than so many times. -/
def launch : Nat → Launch
  | 0, _ => return .exited 126
  | n + 1, loaded =>
    if shellNames.contains loaded.tool then Shell.session (launch n) loaded.args
    else do
      let status ← Tool.run (launch n) loaded.tool loaded.args
      return (deadlySignal? (← get)).elim status .killed

/-- So deep may programs start each other. -/
def maxStarts : Nat := 60

/-- The number of the first process that a request starts, and of the one that asks for it. -/
def firstId : Nat := 4242
def parentId : Nat := 4200

/--
Find the program of a request. If it is searched for in a path that the request has for itself, a
file without an interpreter is run as a script.
-/
def find (request : Spawn) (fs : FileSystem) (cwd : Place) : Except SystemFault Loaded :=
  resolve fs cwd ((request.env.get? "PATH").map Bytes.ofText)
    (if request.ownPath && !request.program.toList.contains '/' then shellFallback else noFallback)
    (Bytes.ofText request.program) (request.args.map Bytes.ofText)

/-- The child process that a request to start a program makes. -/
def child (request : Spawn) (files : FileSystem) : Child :=
  let started : Except SystemFault (Loaded × Place) := do
    match ← files.status [] request.directory with
    | (cwd, .directory) => return (← find request files cwd, cwd)
    | _ => .error .notDirectory
  match started with
  | .error e => ⟨.error e, files, "", false⟩
  | .ok (loaded, cwd) =>
    let world : Machine.World := {
      files, channels := #[.nothing, .output, .errors], output := [], complained := false
      nextId := firstId + 1, signals := [], living := [firstId, parentId, 1] }
    let environment := request.env.entries.map fun (name, value) =>
      Bytes.ofText (name ++ "=" ++ value)
    let process : Process := {
      world, id := firstId, parent := parentId, cwd, descriptors := [(0, 0), (1, 1), (2, 2)]
      environment }
    let (status, process) := (launch maxStarts loaded).run process
    let output := String.join process.world.output.reverse
    ⟨.ok status, process.world.files, Bytes.toText output, process.world.complained⟩

end DocLaunch.Machine
