import DocLaunch.Shell.Builtin
import DocLaunch.Shell.Reader
import DocLaunch.Shell.Redirection

namespace DocLaunch.Shell

open Machine (Bytes Launch Loaded Work)

/-- Signals that ended a process and are not told about. -/
def untold : List Nat := [2, 13]

def report (w : WaitStatus) : Act Unit := do
  if let .killed signal := w.ending then
    if !untold.contains signal then work (Machine.complain (Machine.endingText signal))

/-- Run the rest of the commands of a text, each one when it has been read. -/
def runLines (run : Runner) (mode : Mode) : Nat → Bool → Source → Act Unit
  | 0, _, _ => return
  | n + 1, ran, source => do
    let s ← get
    let aliases := s.aliases.map fun e => (e.1, e.2.toList)
    let fresh := { source with documents := s.documents, nextDocument := s.nextDocument, aliases }
    let (result, source) := (readLine (10 * source.rest.length + 1000)).run.run fresh
    set { s with documents := source.documents, nextDocument := source.nextDocument }
    match result with
    | .error message =>
      modify fun s => { s with line := source.line }
      fault message
    | .ok none => if !ran then setStatus 0
    | .ok (some script) =>
      let ended := match source.ahead with
        | some .fileEnd => true
        | _ => false
      run { mode with last := mode.last && ended } script
      runLines run mode n true source

def runText (run : Runner) (mode : Mode) (text : Bytes) : Act Unit :=
  let cs := text.toList
  runLines run mode (cs.length + 2) false { rest := cs }

def takeSignal (run : Runner) : Act Unit := do
  let s ← get
  let mine := s.process.world.signals.filter (·.1 == s.process.id)
  match mine with
  | [] => return
  | first :: _ =>
    let world := { s.process.world with signals := s.process.world.signals.erase first }
    set { s with process := { s.process with world } }
    let signal := first.2
    match s.traps.lookup signal with
    | some action =>
      if Machine.certain.contains signal then throw (.gone (.killed signal))
      if !action.isEmpty then
        let status := s.saved?.getD s.status
        modify fun t => { t with saved? := some status }
        runText run {} action
        modify fun t => { t with saved? := s.saved?, status }
    | none =>
      let passes := s.process.ignored.contains signal && !Machine.certain.contains signal
      if !passes && !Machine.harmless.contains signal then throw (.gone (.killed signal))

def notice (run : Runner) : Act Unit := do
  for _ in (← get).process.world.signals do takeSignal run

/-- Let a command do its work that runs beside the shell. -/
def Job.finish (j : Job) (world : Machine.World) : Job × Machine.World :=
  match j.work? with
  | none => (j, world)
  | some work =>
    let (status, world) := work world
    ({ j with work? := none, status }, world.without j.id)

/-- Let the commands beside the shell do their work. -/
def finishJobs : StateM State Unit :=
  modify fun s =>
    let (jobs, world) := s.jobs.foldr (fun j (done, world) =>
      let (j, world) := j.finish world
      (j :: done, world)) ([], s.process.world)
    { s with jobs, process := { s.process with world } }

/-- Run something as all that a shell does, up to its end. -/
def conclude (run : Runner) (act : Act Unit) : StateM State WaitStatus := do
  let settle (stop : Except Stop Unit) : StateM State Unit := do
    if let .error .ended := stop then modify fun s => { s with status := s.saved?.getD s.status }
  let ended (stop : Except Stop Unit) : StateM State WaitStatus := do
    finishJobs
    match stop with
    | .error (.gone w) => return w
    | _ => return .exited (← get).status
  let first ← act.run
  match first with
  | .error (.gone _) => ended first
  | _ =>
    settle first
    let s ← get
    match s.traps.lookup 0 with
    | none | some "" => ended first
    | some action =>
      set { s with traps := s.traps.filter (·.1 != 0), saved? := some s.status }
      let second ← (runText run {} action).run
      match second with
      | .error .faulted | .error (.gone _) => ended second
      | _ =>
        settle (.error .ended)
        ended second

/-- The state that a shell within this one begins with. -/
def State.fork (s : State) : State :=
  { s with
    process := s.process.fork
    traps := s.traps.filter (·.2.isEmpty)
    jobs := []
    saved? := none }

def inFork (run : Runner) (act : Act Unit) : Act WaitStatus := do
  let s ← get
  let t := s.fork
  let (w, t) := (conclude run act).run t
  set { s with process := { s.process with world := t.process.world.without t.process.id } }
  return w

def capture (run : Runner) : Capture := fun script => do
  match script with
  | .sequence [] => return ""
  | script =>
    let channel ← work (Machine.addPipe "")
    let w ← inFork run do
      work (Machine.connect 1 channel)
      run { last := true } script
    report w
    modify fun s => { s with captured := w.exitCode }
    work (Machine.drain channel)

inductive Command where
  | function (f : Function)
  | builtin (name : String)
  | program

def findCommand (skipFunctions : Bool) (name : Bytes) : Act Command := do
  match (← get).functions.lookup name with
  | some f => if !skipFunctions then return .function f
  | none => pure ()
  if specialBuiltins.contains name || regularBuiltins.contains name then return .builtin name
  return .program

/-- Expand words as long as they give nothing; the arguments, and the words that are left. -/
def firstArguments (run : Runner) : List Word → Act (List Bytes × List Word)
  | [] => return ([], [])
  | w :: ws => do
    match ← expandArguments (capture run) w with
    | [] => firstArguments run ws
    | args => return (args, ws)

structure Head where
  args : List Bytes
  rest : List Word
  command : Command := .builtin ":"
  /-- The first command of the language itself on the way. -/
  outer? : Option String := none
  /-- The search path, if it is a certain one. -/
  path? : Option Bytes := none

/-- Skip the options of `command`, `none` if they ask what a command is. -/
def skipOptions (run : Runner) : Nat → Head → Act (Option Head)
  | 0, _ => return none
  | n + 1, h => do
    let (args, rest) ← match h.args with
      | [] => firstArguments run h.rest
      | args => pure (args, h.rest)
    match args with
    | [] => return none
    | arg :: more =>
      match arg.toList with
      | ['-', '-'] =>
        let (args, rest) ← match more with
          | [] => firstArguments run rest
          | more => pure (more, rest)
        return if args.isEmpty then none else some { h with args, rest }
      | '-' :: c :: cs =>
        if (c :: cs).all (· == 'p') then
          skipOptions run n
            { h with args := more, rest, path? := some Machine.defaultSearchPath }
        else return none
      | _ => return some { h with args, rest }

/-- Find out what command is meant, also behind `command`. -/
def findHead (run : Runner) : Nat → Bool → Head → Act Head
  | 0, _, h => return h
  | n + 1, skipFunctions, h => do
    match h.args with
    | [] => return h
    | name :: args =>
      let command ← findCommand skipFunctions name
      match command with
      | .builtin b =>
        let outer? := h.outer?.or (some b)
        let h := { h with command, outer? }
        if b = "command" then
          match ← skipOptions run (args.length + h.rest.length + 2) { h with args } with
          | some inner => findHead run n true inner
          | none =>
            let (args, rest) ← match args with
              | [] => firstArguments run h.rest
              | args => pure (args, h.rest)
            return { h with args := name :: args, rest }
        else return h
      | command => return { h with command }

/-- Commands whose arguments may be assignments. -/
def assigning : List String := ["export", "readonly", "local"]

def restArguments (run : Runner) (assigns : Bool) : List Word → Act (List Bytes)
  | [] => return []
  | w :: ws => do
    let args ← if assigns && w.assigns then do
        let arg ← expandSingle (capture run) .value w
        pure [arg]
      else expandArguments (capture run) w
    return args ++ (← restArguments run assigns ws)

/-- Make the assignments before a command; for a program or function they are made for it only. -/
def makeAssignments (run : Runner) (kept exported : Bool) : List Word → Act (List Bytes)
  | [] => return []
  | w :: ws => do
    let text ← expandSingle (capture run) .value w
    let (name, value?) := splitValue text
    if kept then keep name
    assign name (value?.getD "")
    if exported then alter name fun v => { v with exported := true }
    return text :: (← makeAssignments run kept exported ws)

/-- Show a command that is about to be run, where complaints went before its redirections. -/
def trace (run : Runner) (before : List (Nat × Nat)) (texts : List Bytes) : Act Unit := do
  if ← hasOption 'x' then
    let text := ((← value? "PS4").getD "").toList
    let (word, _) := (readQuoted (10 * text.length + 10) .nothing false []).run.run { rest := text }
    let sign ← match word with
      | .ok word => do
        let status := (← get).status
        modify fun s => { s with options := s.options.filter (· != 'x') }
        let sign ← expandSingle (capture run) .plain word
        modify fun s => { s with status, options := 'x' :: s.options }
        pure sign
      | .error _ => pure (String.ofList text)
    let connect (descriptors : List (Nat × Nat)) : Act Unit :=
      modify fun s => { s with process := { s.process with descriptors } }
    let now := (← get).process.descriptors
    connect before
    work (Machine.complain (sign ++ " ".intercalate texts))
    connect now

/-- Write out what a command of the language itself has said. -/
def flush (command : String) (status : Nat) : Act Unit := do
  match ← work Machine.flush with
  | .ok _ => setStatus status
  | .error e =>
    if e = Machine.brokenPipe && !(← get).process.ignored.contains 13 then
      throw (.gone (.killed 13))
    complain (command ++ ": I/O error")
    setStatus (status ||| 1)

/-- Run a command of the language itself. A fault of one that is not special ends only itself. -/
def runBuiltin (name : String) (special : Bool) (command : Builtin) (args : List Bytes) :
    Act Unit := do
  let outer := (← get).command?
  let finish (status : Nat) : Act Unit := do
    modify fun s => { s with command? := some name }
    flush name status
    modify fun s => { s with command? := outer }
  modify fun s => { s with command? := some name }
  let body : Act Nat := tryCatch (command args) fun stop => do
    let status := (← get).status
    finish status
    if stop = .faulted && !special then return status else throw stop
  finish (← body)

/-- Functions call each other no deeper. -/
def maxFunctionDepth : Nat := 1000

/-- Run a function: it has its own arguments and knows no loops around it. -/
def runFunction (run : Runner) (mode : Mode) (f : Function) (args : List Bytes) : Act Unit := do
  let s ← get
  if maxFunctionDepth ≤ s.functionDepth then
    let depth := toString maxFunctionDepth
    fault ("Maximum function recursion depth (" ++ depth ++ ") reached")
  set { s with
    args, optionIndex := 1, optionOffset? := none, loops := 0
    functionDepth := s.functionDepth + 1 }
  let restore : Act Unit := modify fun t =>
    { t with
      args := s.args, optionIndex := s.optionIndex, optionOffset? := s.optionOffset?
      loops := s.loops
      functionDepth := s.functionDepth }
  ensuring
    (tryCatch (run { tested := mode.tested } f.body) fun
      | .returned => return
      | stop => throw stop)
    restore

/-- The program of a command by its arguments, or what is wrong and the status for it. -/
def findProgram (path? : Option Bytes) (args : List Bytes) :
    Act (Except (Bytes × Nat) Loaded) := do
  let p := (← get).process
  let files := p.world.files
  let name := args.headD ""
  let attempt := Machine.attempt files p.cwd Machine.shellFallback args
  let refused (e : SystemFault) : Except (Bytes × Nat) Loaded :=
    let missing := e = .notFound ∨ e = .notDirectory ∨ e = .tooManyLinks ∨ e = .nameTooLong
    .error (name ++ ": " ++ openReason "not found" e, if missing then 127 else 126)
  if name.toList.contains '/' then
    match attempt name with
    | .ok loaded => return .ok loaded
    | .error e => return refused e
  let path ← match path? with
    | some path => pure path
    | none => pure ((← value? "PATH").getD "")
  let candidates := (path.splitOn ":").map fun dir =>
    if dir.isEmpty then name else dir ++ "/" ++ name
  let isFile (path : Bytes) : Bool := (Machine.executable files p.cwd path).isOk
  let isThere (path : Bytes) : Bool := match files.status p.cwd (Bytes.toText path) with
    | .ok _ => true
    | _ => false
  let found := candidates.dropWhile fun path => !isFile path
  if found.isEmpty then
    let text := if candidates.any isThere then "Permission denied" else "not found"
    return .error (name ++ ": " ++ text, 127)
  let rec search (refusal : SystemFault) : List Bytes → Except (Bytes × Nat) Loaded
    | [] => refused refusal
    | path :: paths =>
      match attempt path with
      | .ok loaded => .ok loaded
      | .error e => search (if e = .notFound ∨ e = .notDirectory then refusal else e) paths
  return search .notFound found

def become {α : Type} (launch : Launch) (loaded : Loaded) : Act α := do
  let environment ← environment
  modify fun s => { s with process := { s.process with environment } }
  throw (.gone (← work (launch loaded)))

/-- Let the commands beside the shell do their work now. -/
def finishAll : Act Unit :=
  ExceptT.lift finishJobs

def runFile (run : Runner) : Builtin := fun args => do
  let (_, args) ← takeFlags [] args
  match args with
  | [] => return 0
  | name :: _ =>
    let path ← if name.toList.contains '/' then pure name
      else match ← searchFile? false name with
        | some path => pure path
        | none => fault (name ++ ": not found")
    match ← work (Machine.openPath path .read) with
    | .error e => fault ("cannot open " ++ path ++ ": " ++ openReason "No such file" e)
    | .ok channel =>
      let text ← keepingFiles [10] (work do
        Machine.connect 10 channel
        Machine.readAll 10)
      let outer := (← get).command?
      modify fun s => { s with command? := some path }
      ensuring
        (tryCatch (runText run {} (text.toOption.getD "")) fun
          | .returned => return
          | stop => throw stop)
        (modify fun s => { s with command? := outer })
      return (← get).status

/-- The number in an argument, where there is one. -/
def numberIn? : List Bytes → Act (Option Nat)
  | [] => return none
  | arg :: _ => do return some (← number arg)

/-- The status of a command beside the shell, when it has done its work. -/
def awaitJob (id : Nat) : Act Nat := do
  let s ← get
  match s.jobs.find? (·.id == id) with
  | none => return 127
  | some j =>
    let (j, world) := j.finish s.process.world
    set { s with
      jobs := j :: s.jobs.filter (·.id != id)
      process := { s.process with world } }
    report j.status
    return j.status.exitCode

def wait : Builtin := fun args => do
  let (_, args) ← takeFlags [] args
  if args.isEmpty then finishAll
  let mut status := if args.isEmpty then 0 else 127
  for arg in args do
    let jobs := (← get).jobs
    let id ← match arg.toList with
      | '%' :: rest =>
        let n := if rest.isEmpty || rest = ['%'] || rest = ['+'] then some jobs.length
          else (String.ofList rest).toNat?
        match n.bind fun n => if n = 0 then none else jobs[jobs.length - n]? with
        | some j => pure j.id
        | none => fault ("No such job: " ++ arg)
      | _ => number arg
    status ← awaitJob id
  return status

def sendAll (signal : Nat) (targets : List Bytes) : Act Nat := do
  let mut status := 0
  for target in targets do
    let jobs := (← get).jobs
    let id ← match target.toList with
      | '%' :: rest =>
        let n := ((String.ofList rest).toNat?).getD jobs.length
        match if n = 0 then none else jobs[jobs.length - n]? with
        | some j => pure j.id
        | none => fault ("No such job: " ++ target)
      | '-' :: rest => number (String.ofList rest)
      | _ => number target
    let p := (← get).process
    let id := if id = 0 then p.id else id
    if p.world.living.contains id then
      if signal != 0 then work (Machine.send id signal)
    else
      complain "No such process\n"
      status := 1
  return status

def killUsage : String :=
  "Usage: kill [-s sigspec | -signum | -sigspec] [pid | job]... or\nkill -l [exitstatus]"

/-- A signal by its number or its name. -/
def signalOf? (text : Bytes) : Option Nat :=
  (numberOfSignal? text).filter fun n => n != 0 || text.toList.all Char.isDigit

def listSignals : Builtin := fun args => do
  match args with
  | [] =>
    say "0\n"
    for n in List.range 65 do
      if let some name := Machine.signalName? n then say (name ++ "\n")
    return 0
  | arg :: _ =>
    let n ← number arg
    let n := if 128 < n then n - 128 else n
    match Machine.signalName? n with
    | some name =>
      say (name ++ "\n")
      return 0
    | none => fault ("invalid signal number or exit status: " ++ arg)

def kill : Builtin := fun args => do
  match args with
  | [] => fault killUsage
  | "-l" :: rest | "-L" :: rest => listSignals rest
  | "-s" :: name :: rest =>
    match signalOf? name with
    | none => fault ("invalid signal number or name: " ++ name)
    | some signal =>
      let rest := if rest.head? = some "--" then rest.drop 1 else rest
      if rest.isEmpty then fault killUsage else sendAll signal rest
  | "--" :: rest => if rest.isEmpty then fault killUsage else sendAll 15 rest
  | arg :: rest =>
    match arg.toList with
    | '-' :: name =>
      match signalOf? (String.ofList name) with
      | some signal => if rest.isEmpty then fault killUsage else sendAll signal rest
      | none => fault ("Illegal option -" ++ String.ofList (name.take 1))
    | _ => sendAll 15 args

def describeBy : Builtin := fun args => do
  let (flags, names) ← takeFlags ['v', 'V', 'p'] args
  if flags.contains 'V' then describeAll true (names.take 1)
  else if flags.contains 'v' then describeAll false (names.take 1)
  else return 0

def replaceShell (launch : Launch) : Builtin := fun args => do
  let args := if args.head? = some "--" then args.drop 1 else args
  if args.isEmpty then return 0
  match ← findProgram none args with
  | .ok loaded => become launch loaded
  | .error (message, status) =>
    complain message
    modify fun s => { s with saved? := some status }
    throw .ended

/-- Commands of the language that run others or leave what is run. -/
def control? (launch : Launch) (run : Runner) (mode : Mode) : String → Option Builtin
  | "eval" => some fun args => do
    if args.isEmpty then return 0
    runText run { tested := mode.tested } (" ".intercalate args)
    return (← get).status
  | "." => some (runFile run)
  | "exec" => some (replaceShell launch)
  | "exit" => some fun args => do
    if let some n ← numberIn? args then modify fun s => { s with saved? := some n }
    throw .ended
  | "return" => some fun args => do
    if let some n ← numberIn? args then setStatus n
    throw .returned
  | "command" => some describeBy
  | "wait" => some wait
  | "kill" => some kill
  | _ => none

/-- Run a program as a process of its own, or in place of a shell that has nothing more to do. -/
def runProgram (launch : Launch) (mode : Mode) (path? : Option Bytes) (args : List Bytes) :
    Act Unit := do
  match ← findProgram path? args with
  | .error (message, status) =>
    complain message
    setStatus status
  | .ok loaded =>
    if loaded.tool = "sleep" then finishAll
    if mode.last && (← get).traps.all (·.2.isEmpty) then become launch loaded
    else
      let environment ← environment
      let w ← work (Machine.forked do
        modify fun p => { p with environment }
        launch loaded)
      report w
      setStatus w.exitCode

def runSimple (launch : Launch) (run : Runner) (mode : Mode) (line : Nat)
    (assignments words : List Word) (redirects : List Redirect) : Act Unit := do
  modify fun s => { s with line, captured := 0 }
  let (first, rest) ← firstArguments run words
  let head ← findHead run (words.length + first.length + 1) false { args := first, rest }
  let name? := match head.command with
    | .builtin name => some name
    | _ => none
  let assigns := name?.any assigning.contains
  let args := head.args ++ (← restArguments run assigns head.rest)
  let special := head.outer?.any specialBuiltins.contains
  let replaces := name? = some "exec"
  let kept := !args.isEmpty && !special
  let exported := kept || (replaces && 1 < args.length)
  let body : Act Unit := do
    let targets ← redirects.mapM (Redirect.expand (capture run))
    let before := (← get).process.descriptors
    let body : Act Unit := do
      if ← applyAll (capture run) targets then
        let made ← makeAssignments run kept exported assignments
        let shown := made ++ (first.take (first.length - head.args.length)) ++ args
        if !shown.isEmpty then trace run before shown
        match args, head.command with
        | [], _ => setStatus (← get).captured
        | _ :: rest, .function f => runFunction run mode f rest
        | _ :: rest, .builtin name =>
          match (control? launch run mode name).or (builtin? name) with
          | some command => runBuiltin name special command rest
          | none => setStatus 0
        | args, .program => runProgram launch mode head.path? args
      else
        setStatus 2
        if special then throw .faulted
    if replaces then body else keepingFiles (targets.map Target.fd) body
  if kept then framed body else body

/-- Run something as a loop around other commands. -/
def inLoop (act : Act Unit) : Act Unit := do
  let loops := (← get).loops
  modify fun s => { s with loops := loops + 1 }
  ensuring act (modify fun s => { s with loops })

inductive Round where
  | done
  | left
  | skipped
  deriving DecidableEq

/-- A part of a round; what is meant for loops around it goes on to them. -/
def round (act : Act Unit) : Act Round :=
  tryCatch (do
    act
    return .done) fun
    | .leave (n + 2) => throw (.leave (n + 1))
    | .leave _ => return .left
    | .again (n + 2) => throw (.again (n + 1))
    | .again _ => return .skipped
    | stop => throw stop

/-- Rounds of a loop are counted; nobody waits for so many. -/
def maxRounds : Nat := 1000000000

def runLoop (run : Runner) (mode : Mode) (stopOn : Bool) (condition body : Script) :
    Nat → Nat → Act Unit
  | 0, _ => throw (.gone (.killed 9))
  | n + 1, status => do
    match ← round (run { tested := true } condition) with
    | .left => setStatus status
    | .skipped => runLoop run mode stopOn condition body n status
    | .done =>
      if ((← get).status = 0) = stopOn then setStatus status
      else
        let r ← round (run { tested := mode.tested } body)
        let status := (← get).status
        if r = .left then return
        else runLoop run mode stopOn condition body n status

def runEach (run : Runner) (mode : Mode) (name : String) (body : Script) : List Bytes → Act Unit
  | [] => return
  | value :: values => do
    assign name value
    match ← round (run { tested := mode.tested } body) with
    | .left => return
    | _ => runEach run mode name body values

def runCases (run : Runner) (mode : Mode) (subject : List Char) :
    List (List Word × Script) → Act Unit
  | [] => setStatus 0
  | (patterns, body) :: cases => do
    let rec fitting : List Word → Act Bool
      | [] => return false
      | w :: ws => do
        if (← expandPattern (capture run) w).fits subject then return true else fitting ws
    if ← fitting patterns then
      match body with
      | .sequence [] => setStatus 0
      | body => run mode body
    else runCases run mode subject cases

/-- Run commands each of which reads what the one before it writes. -/
def runPipeline (run : Runner) (mode : Mode) (input? : Option Nat) : List Script → Act Unit
  | [] => return
  | part :: parts => do
    let output? ← if parts.isEmpty then pure none
      else some <$> work (Machine.addPipe "")
    let w ← inFork run do
      if let some input := input? then work (Machine.connect 0 input)
      if let some output := output? then work (Machine.connect 1 output)
      run { mode with last := true } part
    report w
    if let some input := input? then work (Machine.setChannel input .nothing)
    if parts.isEmpty then setStatus w.exitCode
    runPipeline run mode output? parts

/-- Put a script aside, to run it when it is waited for. -/
def runBeside (run : Runner) (body : Script) : Act Unit := do
  let s ← get
  let t := s.fork
  let id := t.process.id
  let act : Act Unit := do
    match ← work (Machine.openPath "/dev/null" .read) with
    | .ok channel => work (Machine.connect 0 channel)
    | .error _ => pure ()
    run { last := true } body
  let job (world : Machine.World) : WaitStatus × Machine.World :=
    let (w, t) := (conclude run act).run { t with process := { t.process with world } }
    (w, t.process.world)
  set { s with
    process := { s.process with world := t.process.world }
    jobs := { id, work? := some job, status := .exited 0 } :: s.jobs
    lastJob := some id
    status := 0 }

/-- End a shell that stops at failures after a command that has failed. -/
def checkStatus (mode : Mode) : Act Unit := do
  if !mode.tested && (← get).status != 0 && (← hasOption 'e') then throw .ended

/-- Run a script, with `run` for the commands in it. -/
def runStep (launch : Launch) (run : Runner) (mode : Mode) : Script → Act Unit
  | .simple line assignments words redirects => do
    runSimple launch run mode line assignments words redirects
    notice run
    checkStatus mode
  | .pipeline parts => do
    runPipeline run mode none parts
    notice run
    checkStatus mode
  | .background body => runBeside run body
  | .sequence parts => runAll parts
  | .ifSo a b => do
    run { tested := true } a
    if (← get).status = 0 then run mode b
  | .ifNot a b => do
    run { tested := true } a
    if (← get).status != 0 then run mode b
  | .negated a => do
    run { tested := true } a
    setStatus (if (← get).status = 0 then 1 else 0)
  | .branch c a b => do
    run { tested := true } c
    if (← get).status = 0 then run mode a
    else
      match b with
      | .sequence [] => setStatus 0
      | b => run mode b
  | .loop stopOn c body => inLoop (runLoop run mode stopOn c body maxRounds 0)
  | .each line name words body => do
    modify fun s => { s with line }
    let values ← words.mapM (expandArguments (capture run))
    if values.flatten.isEmpty then setStatus 0
    inLoop (runEach run mode name body values.flatten)
  | .choose line subject cases => do
    modify fun s => { s with line }
    let text ← expandSingle (capture run) .single subject
    runCases run mode text.toList cases
  | .redirected line body redirects => do
    modify fun s => { s with line }
    let targets ← redirects.mapM (Redirect.expand (capture run))
    keepingFiles (targets.map Target.fd) do
      if ← applyAll (capture run) targets then run { tested := mode.tested } body
      else
        setStatus 2
        checkStatus mode
  | .apart line body redirects => do
    modify fun s => { s with line }
    let targets ← redirects.mapM (Redirect.expand (capture run))
    let w ← inFork run do
      if ← applyAll (capture run) targets then run { mode with last := true } body
      else
        setStatus 2
        throw .faulted
    if mode.last && (← get).traps.all (·.2.isEmpty) then throw (.gone w)
    report w
    setStatus w.exitCode
    notice run
    checkStatus mode
  | .define name line body => do
    modify fun s =>
      { s with functions := (name, ⟨line, body⟩) :: s.functions.filter (·.1 != name) }
    setStatus 0
where
  runAll : List Script → Act Unit
    | [] => return
    | [s] => run mode s
    | s :: ss => do
      run { tested := mode.tested } s
      runAll ss

/-- Run a script. One that nests too deep ends like one that has used up its stack. -/
def runScript (launch : Launch) : Nat → Runner
  | 0, _, _ => throw (.gone (.killed 11))
  | n + 1, mode, script => do
    if ← hasOption 'n' then return
    let run := runScript launch n
    notice run
    runStep launch run mode script

/-- Commands nest no deeper. -/
def maxDepth : Nat := 20000

end DocLaunch.Shell
