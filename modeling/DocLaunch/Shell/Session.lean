import DocLaunch.Shell.Execution

namespace DocLaunch.Shell

open Machine (Bytes Launch Work)

inductive ScriptSource where
  | text (script : Bytes)
  | file (path : Bytes) (args : List Bytes)
  | input

/-- The options that begin the arguments of a shell; the result tells if a text is to be run. -/
def takeOptions : Nat → Bool → List Bytes → Act (Bool × List Bytes)
  | 0, isText, args => return (isText, args)
  | n + 1, isText, args => do
    match args with
    | [] => return (isText, [])
    | arg :: rest =>
      match arg.toList with
      | ['-'] | ['-', '-'] => return (isText, rest)
      | sign :: c :: cs =>
        if sign = '-' ∨ sign = '+' then
          let flags := c :: cs
          let plain := flags.filter fun c => !(['c', 'l', 'o'].contains c)
          if !plain.isEmpty then
            let _ ← setArguments 2 [String.ofList (sign :: plain)]
          let mut rest := rest
          for c in flags do
            if c = 'o' then
              let _ ← setArguments 2 (String.ofList [sign, 'o'] :: rest.take 1)
              rest := rest.drop 1
          takeOptions n (isText || flags.contains 'c') rest
        else return (isText, args)
      | _ => return (isText, args)

/-- Take in what is known from the environment, and the variables that every shell has. -/
def begin (environment : List Bytes) : Act Unit := do
  for entry in environment do
    if let some (name, value) := splitAssignment? entry.toList then
      putVariable name (some { value? := some (String.ofList value), exported := true })
  let own := [("IFS", " \t\n"), ("OPTIND", "1"), ("PPID", toString (← get).process.parent)]
  for (name, value) in own do alter name fun v => { v with value? := some value }
  let rest := [("PATH", "/usr/local/sbin:/usr/local/bin:/usr/sbin:/usr/bin:/sbin:/bin"),
    ("PS1", "# "), ("PS2", "> "), ("PS4", "+ ")]
  for (name, value) in rest do
    if (← value? name).isNone then assign name value
  let p := (← get).process
  let here := Bytes.ofText p.cwd.toPath
  let directory := match ← value? "PWD" with
    | some path =>
      let same := match p.world.files.status p.cwd (Bytes.toText path) with
        | .ok (place, .directory) => path.startsWith "/" && place = p.cwd
        | _ => false
      if same then path else here
    | none => here
  modify fun s => { s with directory }
  assign "PWD" directory
  alter "PWD" fun v => { v with exported := true }

def findScript (args : List Bytes) : Act ScriptSource := do
  let (isText, args) ← takeOptions (args.length + 1) false args
  let fromInput ← hasOption 's'
  let rename : List Bytes → Act Unit
    | [] => return
    | name :: args => modify fun s => { s with name, args }
  match isText, args with
  | true, [] => fault "-c requires an argument"
  | true, script :: args =>
    rename args
    return .text script
  | false, args =>
    match fromInput, args with
    | false, path :: args => return .file path args
    | _, args =>
      modify fun s => { s with args }
      return .input

def runScriptOf (run : Runner) (args : List Bytes) : Act Unit := do
  match ← findScript args with
  | .text script =>
    modify fun s => { s with line := 1 }
    runText run { last := !(← hasOption 's') } script
  | .input =>
    let text ← work (Machine.readAll 0)
    modify fun s => { s with line := 1 }
    runText run {} (text.toOption.getD "")
  | .file path args =>
    match ← work (Machine.openPath path .read) with
    | .error e => fault ("cannot open " ++ path ++ ": " ++ openReason "No such file" e)
    | .ok channel =>
      let text ← keepingFiles [10] (work do
        Machine.connect 10 channel
        Machine.readAll 10)
      modify fun s => { s with name := path, args, line := 1 }
      runText run {} (text.toOption.getD "")

def session (launch : Launch) (args : List Bytes) : Work WaitStatus := do
  let process ← get
  let run := runScript launch maxDepth
  let s : State := {
    process, name := args.headD "sh", args := [], line := 0, directory := "/"
    mainId := process.id }
  let (w, s) := (conclude run do
    begin process.environment
    runScriptOf run (args.drop 1)).run s
  set s.process
  return w

end DocLaunch.Shell
