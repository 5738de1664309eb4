import DocLaunch.Path.Basic

namespace DocLaunch

inductive LogFormat where
  | text
  | json
  deriving DecidableEq, Repr

inductive Command where
  | run (sync : Option Bool) (entry : Path) (forwarded : List String)
  | root (entry : Path)
  | init (dir : Option Path) (force : Bool)
  | display (entry : Path) (json : Bool)
  | check (entry : Path)
  deriving DecidableEq, Repr

structure Invocation where
  verbosity : Nat
  format : LogFormat
  command : Command
  deriving DecidableEq, Repr

/-- Why the arguments lead to no command. -/
inductive Stop where
  | usage
  | help
  | version
  deriving DecidableEq, Repr

namespace Arguments

/-- The flags in an argument such as `-vv`. -/
def cluster? (arg : String) : Option (List Char) :=
  match arg.toList with
  | '-' :: c :: rest => if c = '-' then none else some (c :: rest)
  | _ => none

def isLong (arg : String) : Bool :=
  match arg.toList with
  | '-' :: '-' :: _ => true
  | _ => false

/-- The value behind `flag=`. -/
def attached? (flag arg : String) : Option String :=
  if (flag ++ "=").toList.isPrefixOf arg.toList then
    some (String.ofList (arg.toList.drop (flag.length + 1)))
  else none

structure RunFlags where
  sync : Bool := false
  noSync : Bool := false

/-- The two flags exclude each other. -/
def RunFlags.choice (f : RunFlags) : Except Stop (Option Bool) :=
  match f.sync, f.noSync with
  | true, true => .error .usage
  | true, false => .ok (some true)
  | false, true => .ok (some false)
  | false, false => .ok none

def finishRun (fallback : Option String) (f : RunFlags) (commandLine : List String) :
    Except Stop Command := do
  let sync ← f.choice
  match commandLine, fallback with
  | entry :: forwarded, _ => .ok (.run sync entry forwarded)
  | [], some entry => .ok (.run sync entry [])
  | [], none => .error .usage

/-- Known flags count up to the first argument that is none; unknown ones are taken for entries. -/
def parseRun (fallback : Option String) (f : RunFlags) : List String → Except Stop Command
  | [] => finishRun fallback f []
  | arg :: rest =>
    if arg = "--" then finishRun fallback f rest
    else if arg = "--sync-submodules" then
      if f.sync then .error .usage else parseRun fallback { f with sync := true } rest
    else if arg = "--no-sync-submodules" then
      if f.noSync then .error .usage else parseRun fallback { f with noSync := true } rest
    else if arg = "--help" then .error .help
    else if ["--sync-submodules", "--no-sync-submodules", "--help"].any
        (attached? · arg |>.isSome) then .error .usage
    else if (cluster? arg).any (·.all (· = 'h')) then .error .help
    else finishRun fallback f (arg :: rest)

/-- At most one argument and perhaps one flag, as most commands have them. -/
structure Simple where
  value? : Option String := none
  flag : Bool := false

/-- An empty path is no value, and there is only one. -/
def Simple.setValue (s : Simple) (value : String) : Except Stop Simple :=
  if s.value?.isSome || value.isEmpty then .error .usage
  else .ok { s with value? := some value }

def parseSimple (flag : Option String) (s : Simple) : List String → Except Stop Simple
  | [] => .ok s
  | arg :: rest =>
    if arg = "--" then rest.foldlM Simple.setValue s
    else if flag = some arg then
      if s.flag then .error .usage else parseSimple flag { s with flag := true } rest
    else if arg = "--help" then .error .help
    else if isLong arg then .error .usage
    else
      match cluster? arg with
      | some ('h' :: _) => .error .help
      | some _ => .error .usage
      | none => do parseSimple flag (← s.setValue arg) rest

def Simple.entry (fallback : Option String) (s : Simple) : Except Stop Path :=
  match s.value?, fallback with
  | some entry, _ => .ok entry
  | none, some entry => if entry.isEmpty then .error .usage else .ok entry
  | none, none => .error .usage

/-- The commands that `help` knows under another command, the empty text being the program. -/
def subcommands : String → List String
  | "" => ["run", "root", "config", "help"]
  | "config" => ["init", "show", "check", "help"]
  | _ => []

/-- `help` takes the names of commands, each under the one before. -/
def parseHelp (under : String) : List String → Except Stop Command
  | [] => .error .help
  | name :: names =>
    if (subcommands under).contains name then parseHelp name names else .error .usage

def parseConfig (fallback : Option String) : List String → Except Stop Command
  | [] => .error .usage
  | arg :: rest =>
    match arg with
    | "init" => do
      let s ← parseSimple (some "--force") {} rest
      .ok (.init s.value? s.flag)
    | "show" => do
      let s ← parseSimple (some "--json") {} rest
      .ok (.display (← s.entry fallback) s.flag)
    | "check" => do
      let s ← parseSimple none {} rest
      .ok (.check (← s.entry fallback))
    | "help" => parseHelp "config" rest
    | "--help" => .error .help
    | arg =>
      match cluster? arg with
      | some ('h' :: _) => .error .help
      | _ => .error .usage

def parseCommand (fallback : Option String) (name : String) (rest : List String) :
    Except Stop Command :=
  match name with
  | "run" => parseRun fallback {} rest
  | "root" => do
    let s ← parseSimple none {} rest
    .ok (.root (← s.entry fallback))
  | "config" => parseConfig fallback rest
  | "help" => parseHelp "" rest
  | _ => .error .usage

structure Flags where
  verbosity : Nat := 0
  format? : Option LogFormat := none

def LogFormat.ofName? : String → Option LogFormat
  | "text" => some .text
  | "json" => some .json
  | _ => none

/-- The format is given once at most. -/
def Flags.setFormat (f : Flags) (name : String) : Except Stop Flags :=
  match LogFormat.ofName? name, f.format? with
  | some format, none => .ok { f with format? := some format }
  | _, _ => .error .usage

/-- Verbosity is counted in a byte. -/
def Flags.louder (f : Flags) : Flags :=
  { f with verbosity := min 255 (f.verbosity + 1) }

def Flags.addCluster (f : Flags) : List Char → Except Stop Flags
  | [] => .ok f
  | 'v' :: rest => Flags.addCluster f.louder rest
  | 'h' :: _ => .error .help
  | 'V' :: _ => .error .version
  | _ => .error .usage

def parseFlags (fallback : Option String) (f : Flags) : List String → Except Stop Invocation
  | [] => .error .usage
  | arg :: rest =>
    if arg = "--verbose" then parseFlags fallback f.louder rest
    else if arg = "--log-format" then
      match rest with
      | [] => .error .usage
      | name :: rest => do parseFlags fallback (← f.setFormat name) rest
    else if arg = "--help" then .error .help
    else if arg = "--version" then .error .version
    else
      match attached? "--log-format" arg, cluster? arg with
      | some name, _ => do parseFlags fallback (← f.setFormat name) rest
      | none, some flags => do parseFlags fallback (← f.addCluster flags) rest
      | none, none => do
        if isLong arg then .error .usage
        let command ← parseCommand fallback arg rest
        .ok ⟨f.verbosity, f.format?.getD .text, command⟩

end Arguments

/-- The invocation that arguments ask for, given the entry that the environment names, if any. -/
def Invocation.ofArguments (fallback : Option String) (args : List String) :
    Except Stop Invocation :=
  Arguments.parseFlags fallback {} args

end DocLaunch
