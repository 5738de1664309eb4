import DocLaunch.Machine.Program
import DocLaunch.Machine.Signal
import DocLaunch.Shell.Expansion
import DocLaunch.Tool.Condition
import DocLaunch.Tool.Format

namespace DocLaunch.Shell

open Machine (Bytes Work)
open Tool

abbrev Builtin := List Bytes → Act Nat

def say (text : Bytes) : Act Unit := work (Machine.say text)

/-- A text in single quotes, so that a script reads it as one word. -/
def inQuotes (s : Bytes) : Bytes :=
  let parts := s.splitOn "'"
  "'" ++ "'\"'\"'".intercalate parts ++ "'"

def number (s : Bytes) : Act Nat := do
  let cs := s.toList
  if !cs.isEmpty && cs.all Char.isDigit then
    let n := cs.foldl (fun n c => 10 * n + (c.toNat - '0'.toNat)) 0
    if n ≤ 2147483647 then return n
  fault ("Illegal number: " ++ s)

/-- Flags at the front of arguments, as far as they are allowed, and the other arguments. -/
def takeFlags (allowed : List Char) : List Bytes → Act (List Char × List Bytes)
  | [] => return ([], [])
  | arg :: args =>
    match arg.toList with
    | ['-', '-'] => return ([], args)
    | '-' :: c :: cs => do
      if let some wrong := (c :: cs).find? fun c => !allowed.contains c then
        fault ("Illegal option -" ++ wrong.toString)
      let (flags, args) ← takeFlags allowed args
      return (c :: cs ++ flags, args)
    | _ => return ([], arg :: args)

/-- A path from the working directory on, steps to parents taken back. -/
def logicalPath (directory dest : Bytes) : Bytes :=
  let steps (done : List String) (s : String) : List String :=
    if s.isEmpty || s = "." then done else if s = ".." then done.drop 1 else s :: done
  let start := if dest.startsWith "/" then [] else (directory.splitOn "/").foldl steps []
  let all := (dest.splitOn "/").foldl steps start
  "/" ++ "/".intercalate all.reverse

/-- Go to a directory, and note where the shell has been. -/
def moveTo (path : Bytes) (physical : Bool) : Act Bool := do
  let s ← get
  let target := if physical then path else logicalPath s.directory path
  match s.process.world.files.status s.process.cwd (Bytes.toText target) with
  | .ok (place, .directory) =>
    let now := if physical then Bytes.ofText place.toPath else target
    set { s with process := { s.process with cwd := place }, directory := now }
    assign "OLDPWD" s.directory
    alter "OLDPWD" fun v => { v with exported := true }
    assign "PWD" now
    alter "PWD" fun v => { v with exported := true }
    return true
  | _ => return false

/-- Directories in which a relative one is searched for. -/
def searchedDirectories (dest : Bytes) : Act (List Bytes) := do
  if dest.startsWith "/" || dest = "." || dest = ".." || dest.startsWith "./" ||
      dest.startsWith "../" then return [""]
  else return ((← value? "CDPATH").getD "").splitOn ":"

def changeDirectory : Builtin := fun args => do
  let (flags, args) ← takeFlags ['L', 'P'] args
  let physical := flags.getLast? = some 'P'
  let (dest, back) ← match args with
    | [] => pure ((← value? "HOME").getD "", false)
    | "-" :: _ => pure ((← value? "OLDPWD").getD "", true)
    | dest :: _ => pure (dest, false)
  let dest := if dest.isEmpty then "." else dest
  for dir in ← searchedDirectories dest do
    let path := if dir.isEmpty then dest
      else if dir.endsWith "/" then dir ++ dest else dir ++ "/" ++ dest
    if ← moveTo path physical then
      if back || !dir.isEmpty then say ((← get).directory ++ "\n")
      return 0
  fault ("can't cd to " ++ dest)

def printDirectory : Builtin := fun args => do
  let (flags, _) ← takeFlags ['L', 'P'] args
  let s ← get
  let physical := flags.getLast? = some 'P'
  say ((if physical then Bytes.ofText s.process.cwd.toPath else s.directory) ++ "\n")
  return 0

def printFormat : Builtin := fun args => do
  let (_, args) ← takeFlags [] args
  match args with
  | [] => fault "usage: printf format [arg ...]"
  | format :: args =>
    let p := Format.print format args
    say (String.ofList p.output)
    for text in p.complaints do complain text
    match p.error? with
    | some text => fault text
    | none => return p.status

def testCondition : Builtin := fun args => do
  match Tool.Condition.holds (← get).process (args.length + 1) args with
  | .ok holds => return if holds then 0 else 1
  | .error text => fault text

def testBracket : Builtin := fun args =>
  if args.getLast? = some "]" then testCondition args.dropLast else fault "missing ]"

/-- Leave loops, or go on with the next round of one. -/
def leaveLoops (stop : Nat → Stop) : Builtin := fun args => do
  let n ← match args with
    | [] => pure 1
    | arg :: _ => do
      let n ← number arg
      if n = 0 then fault ("Illegal number: " ++ arg) else pure n
  let loops := (← get).loops
  if loops = 0 then return 0
  setStatus 0
  throw (stop (min n loops))

/-- Variables with a property, as they are written to get it again. -/
def listVariables (command : String) (has : Variable → Bool) : Act Unit := do
  let found := (← get).bindings.filter fun e => has e.2
  for (name, v) in found.mergeSort (fun a b => a.1 ≤ b.1) do
    let value := match v.value? with
      | some value => "=" ++ inQuotes value
      | none => ""
    say (command ++ " " ++ name ++ value ++ "\n")

/-- Split an argument at its equals sign. -/
def splitValue (arg : Bytes) : String × Option Bytes :=
  match splitAssignment? arg.toList with
  | some (name, value) => (name, some (String.ofList value))
  | none => (arg, none)

def checkName (arg name : Bytes) : Act Unit := do
  if !isName name.toList then
    let cut := (arg.toList.takeWhile (· != '='))
    fault (String.ofList cut ++ ": bad variable name")

def declare (command : String) (has : Variable → Bool) (give : Variable → Variable) : Builtin :=
  fun args => do
    let (flags, args) ← takeFlags ['p'] args
    if flags.contains 'p' || args.isEmpty then listVariables command has
    else
      for arg in args do
        let (name, value?) := splitValue arg
        checkName arg name
        if let some value := value? then assign name value
        alter name give
    return 0

def declareLocal : Builtin := fun args => do
  if (← get).functionDepth = 0 then fault "not in a function"
  for arg in args do
    let (name, value?) := splitValue arg
    checkName arg name
    keep name
    if let some value := value? then assign name value
  return 0

def unsetNames : Builtin := fun args => do
  let (flags, args) ← takeFlags ['v', 'f'] args
  for name in args do
    if flags.getLast? != some 'f' then checkName name name
    if flags.getLast? = some 'f' then
      modify fun s => { s with functions := s.functions.filter (·.1 != name) }
    else unset name
  return 0

def shiftArguments : Builtin := fun args => do
  let n ← match args with
    | [] => pure 1
    | arg :: _ => number arg
  let s ← get
  if s.args.length < n then fault "can't shift that many"
  set { s with args := s.args.drop n, optionIndex := 1, optionOffset? := none }
  return 0

def setOption (on : Bool) (c : Char) : Act Unit :=
  modify fun s =>
    let others := s.options.filter (· != c)
    { s with options := if on then c :: others else others }

/-- Set options and arguments. -/
def setArguments : Nat → Builtin
  | 0, _ => return 0
  | n + 1, args => do
    let replace (args : List Bytes) : Act Nat := do
      modify fun s => { s with args, optionIndex := 1, optionOffset? := none }
      return 0
    match args with
    | [] => return 0
    | "--" :: rest => replace rest
    | "-" :: rest =>
      setOption false 'x'
      setOption false 'v'
      if rest.isEmpty then return 0 else replace rest
    | arg :: rest =>
      match arg.toList with
      | sign :: flags =>
        if (sign = '-' ∨ sign = '+') ∧ !flags.isEmpty then
          let mut rest := rest
          for c in flags do
            if c = 'o' then
              match rest with
              | name :: more =>
                match optionLetters.find? (·.2 == name) with
                | some (letter, _) => setOption (sign = '-') letter
                | none => fault ("Illegal option -o " ++ name)
                rest := more
              | [] => listOptions (sign = '-')
            else if optionLetters.any (fun e => e.1 == c && !(['l', 'd'].contains c)) then
              setOption (sign = '-') c
            else fault ("Illegal option " ++ sign.toString ++ c.toString)
          setArguments n rest
        else replace args
      | [] => replace args
where
  listOptions (readable : Bool) : Act Unit := do
    let on := (← get).options
    if readable then say "Current option settings\n"
    for (letter, name) in optionLetters do
      if readable then
        let blanks := String.ofList (List.replicate (16 - name.length) ' ')
        say (name ++ blanks ++ (if on.contains letter then "on" else "off") ++ "\n")
      else say ("set " ++ (if on.contains letter then "-o " else "+o ") ++ name ++ "\n")

/-- Without arguments `set` lists all variables. -/
def setOrList : Builtin := fun args => do
  if args.isEmpty then
    let named := (← get).bindings.filterMap fun e => e.2.value?.map fun v => (e.1, v)
    for (name, value) in named.mergeSort (fun a b => a.1 ≤ b.1) do
      say (name ++ "=" ++ inQuotes value ++ "\n")
    return 0
  else setArguments (args.length + 1) args

def assignFields (names : List Bytes) (line : List (Char × Bool)) : Act Unit := do
  let fields := splitLine (← separators) line names.length
  for (name, i) in names.zipIdx do
    checkName name name
    assign name (String.ofList (fields[i]?.getD []))

/-- Take the backslashes out of a line; what they protect does not split. -/
def unprotect : List Char → List (Char × Bool)
  | '\\' :: '\n' :: rest => unprotect rest
  | '\\' :: c :: rest => (c, false) :: unprotect rest
  | ['\\'] => []
  | c :: rest => (c, true) :: unprotect rest
  | [] => []

/-- Read a line, and those that backslashes join to it. The second result tells the end. -/
def readJoined (raw : Bool) : Nat → Act (List Char × Bool)
  | 0 => return ([], true)
  | n + 1 => do
    match ← work (Machine.readLine 0) with
    | .error _ => return ([], true)
    | .ok line =>
      if line.getLast? != some '\n' then return (line, true)
      else
        let body := line.dropLast
        if !raw && (body.reverse.takeWhile (· == '\\')).length % 2 == 1 then
          let (more, ended) ← readJoined raw n
          return (body.dropLast ++ more, ended)
        else return (body, false)

/-- The options of `read`: whether backslashes are plain. A prompt is for terminals only. -/
def takeReadOptions (raw : Bool) : List Bytes → Act (Bool × List Bytes)
  | [] => return (raw, [])
  | arg :: args =>
    match arg.toList with
    | ['-', '-'] => return (raw, args)
    | '-' :: c :: cs =>
      match (c :: cs).dropWhile (· == 'r'), args with
      | [], args => takeReadOptions true args
      | ['p'], [] => fault "No arg for -p option"
      | ['p'], _ :: args => takeReadOptions (raw || c == 'r') args
      | 'p' :: _, args => takeReadOptions (raw || c == 'r') args
      | wrong :: _, _ => fault ("Illegal option -" ++ wrong.toString)
    | _ => return (raw, arg :: args)

def readVariables : Builtin := fun args => do
  let (raw, names) ← takeReadOptions false args
  if names.isEmpty then fault "arg count"
  let (line, ended) ← readJoined raw 10000
  let line := line.filter (· != '\x00')
  assignFields names (if raw then line.map (·, true) else unprotect line)
  return if ended then 1 else 0

def numberOfSignal? (text : Bytes) : Option Nat :=
  let cs := text.toList
  if !cs.isEmpty && cs.all Char.isDigit then (text.toNat?).filter (· ≤ 64)
  else if text.map Char.toUpper = "EXIT" then some 0
  else if text.startsWith "SIG" then none
  else Machine.signalByName? text

def trapName (n : Nat) : String :=
  if n = 0 then "EXIT" else (Machine.signalName? n).getD (toString n)

def setTraps : Builtin := fun args => do
  let (_, args) ← takeFlags [] args
  match args with
  | [] =>
    let traps := (← get).traps
    for (n, action) in traps.mergeSort (fun a b => a.1 ≤ b.1) do
      say ("trap -- " ++ inQuotes action ++ " " ++ trapName n ++ "\n")
    return 0
  | first :: rest =>
    let (action?, names) :=
      if rest.isEmpty || (numberOfSignal? first).isSome then (none, args)
      else (some first, rest)
    for name in names do
      match numberOfSignal? name with
      | none =>
        work (Machine.complain ("trap: " ++ name ++ ": bad trap"))
        return 1
      | some n =>
        modify fun s =>
          let others := s.traps.filter (·.1 != n)
          let ignored := s.process.ignored.filter (· != n)
          match action? with
          | none | some "-" =>
            { s with traps := others, process := { s.process with ignored } }
          | some action =>
            let ignored := if action.isEmpty then n :: ignored else ignored
            { s with traps := (n, action) :: others, process := { s.process with ignored } }
    return 0

/-- The text of permissions that are not taken away. -/
def maskText (mask : Nat) : Bytes :=
  let part (who : String) (bits : Nat) : String :=
    let letter (c : String) (bits : Nat) : String := if bits % 2 = 0 then c else ""
    who ++ "=" ++ letter "r" (bits / 4) ++ letter "w" (bits / 2) ++ letter "x" bits
  ",".intercalate [part "u" (mask / 64), part "g" (mask / 8), part "o" mask]

def octal (digits n : Nat) : String :=
  let ds := Nat.toDigits 8 n
  String.ofList (List.replicate (digits - ds.length) '0' ++ ds)

/-- The permissions that a clause such as `g+w` leaves, from those before it. -/
def applyClause (granted : Nat) (clause : List Char) : Option Nat := do
  let whos := clause.takeWhile ['u', 'g', 'o', 'a'].contains
  let whos := if whos.isEmpty then ['a'] else whos
  let rest := clause.drop (clause.takeWhile ['u', 'g', 'o', 'a'].contains).length
  match rest with
  | op :: letters =>
    if ¬ ['+', '-', '='].contains op then none
    else if letters.any fun c => !(['r', 'w', 'x', 'X', 's', 't'].contains c) then none
    else
      let bit (c : Char) : Nat := match c with
        | 'r' => 4
        | 'w' => 2
        | 'x' | 'X' => 1
        | _ => 0
      let bits := letters.foldl (fun n c => n ||| bit c) 0
      let field (who : Char) : Nat := match who with
        | 'u' => 64
        | 'g' => 8
        | 'o' => 1
        | _ => 73
      some (whos.foldl (fun granted who =>
        let change := bits * field who
        let all := 7 * field who
        match op with
        | '+' => granted ||| change
        | '-' => granted &&& (511 - change)
        | _ => (granted &&& (511 - all)) ||| change) granted)
  | [] => none

def changeMask : Builtin := fun args => do
  let (flags, args) ← takeFlags ['S'] args
  match args with
  | [] =>
    let mask := (← get).process.mask
    say ((if flags.contains 'S' then maskText mask else octal 4 mask) ++ "\n")
    return 0
  | arg :: _ =>
    let cs := arg.toList
    let setMask (mask : Nat) : Act Nat := do
      modify fun s => { s with process := { s.process with mask } }
      return 0
    if cs.head?.any Char.isDigit then
      if cs.all Format.isOctal then
        setMask (cs.foldl (fun n c => 8 * n + (c.toNat - '0'.toNat)) 0 % 512)
      else fault ("Illegal number: " ++ arg)
    else
      let granted := 511 - (← get).process.mask
      match (arg.splitOn ",").foldlM (fun g clause => applyClause g clause.toList) granted with
      | some granted => setMask (511 - granted)
      | none => fault ("Illegal mode: " ++ arg)

/-- Where a search for options stands: the next item, and the letters left of the one before it. -/
structure OptionSearch where
  items : List Bytes
  next : Nat
  letters? : Option (List Char)

structure FoundOption where
  search : OptionSearch
  letter : Char := '?'
  value? : Option Bytes := none
  complaint? : Option Bytes := none
  more : Bool := true

/-- Look at the next letter; a colon in front of the known ones keeps complaints away. -/
def findOption (spec : List Char) (s : OptionSearch) : FoundOption :=
  let (quiet, known) := match spec with
    | ':' :: rest => (true, rest)
    | spec => (false, spec)
  let atLetter (c : Char) (rest : List Char) (next : Nat) : FoundOption :=
    let onward : OptionSearch := { s with next, letters? := some rest }
    match if c = ':' then none else known.findIdx? (· == c) with
    | none =>
      { search := onward, value? := if quiet then some c.toString else none
        complaint? := if quiet then none else some ("Illegal option -" ++ c.toString) }
    | some i =>
      if known[i + 1]? != some ':' then { search := onward, letter := c, value? := some "" }
      else if !rest.isEmpty then
        { search := { s with next, letters? := none }, letter := c
          value? := some (String.ofList rest) }
      else
        match s.items[next - 1]? with
        | some value =>
          { search := { s with next := next + 1, letters? := none }, letter := c
            value? := some value }
        | none =>
          { search := { s with next, letters? := none }, letter := if quiet then ':' else '?'
            value? := if quiet then some c.toString else none
            complaint? := if quiet then none
              else some ("No arg for -" ++ c.toString ++ " option") }
  let ended (next : Nat) : FoundOption :=
    { search := { s with next, letters? := none }, more := false }
  match s.letters? with
  | some (c :: rest) => atLetter c rest s.next
  | _ =>
    match (s.items[s.next - 1]?).map String.toList with
    | some ['-', '-'] => ended (s.next + 1)
    | some ('-' :: c :: rest) => atLetter c rest (s.next + 1)
    | _ => ended s.next

def nextOption : Builtin := fun args => do
  match args with
  | spec :: name :: given =>
    let s ← get
    let items := if given.isEmpty then s.args else given
    let letters? := s.optionOffset?.bind fun offset =>
      if s.optionIndex ≤ 1 then none
      else (items[s.optionIndex - 2]?).bind fun item =>
        if item.length < offset then none else some (item.toList.drop offset)
    let found := findOption spec.toList ⟨items, s.optionIndex, letters?⟩
    if let some text := found.complaint? then work (Machine.complain text)
    if found.more then
      match found.value? with
      | some value => assign "OPTARG" value
      | none => putVariable "OPTARG" none
    let next := found.search.next
    assign "OPTIND" (toString next)
    let offset? := found.search.letters?.map fun rest =>
      ((items[next - 2]?).getD "").length - rest.length
    modify fun s => { s with optionIndex := next, optionOffset? := offset? }
    assign name found.letter.toString
    return if found.more then 0 else 1
  | _ => fault "Usage: getopts optstring var [arg...]"

/-- Aliases are listed by buckets. -/
def bucket (name : Bytes) : Nat :=
  match name.toList with
  | [] => 0
  | c :: cs => (c :: cs).foldl (fun n c => n + c.toNat) (16 * c.toNat) % 39

def setAliases : Builtin := fun args => do
  if args.isEmpty then
    for (name, value) in (← get).aliases.reverse.mergeSort fun a b => bucket a.1 ≤ bucket b.1 do
      say (name ++ "=" ++ inQuotes value ++ "\n")
    return 0
  let mut status := 0
  for arg in args do
    match arg.toList.findIdx? (· == '=') with
    | some i =>
      if i = 0 then status := 1
      else
        let name := String.ofList (arg.toList.take i)
        let value := String.ofList (arg.toList.drop (i + 1))
        modify fun s =>
          { s with aliases :=
              if (s.aliases.lookup name).isSome then
                s.aliases.map fun e => if e.1 = name then (name, value) else e
              else (name, value) :: s.aliases }
    | none =>
      match (← get).aliases.lookup arg with
      | some value => say (arg ++ "=" ++ inQuotes value ++ "\n")
      | none =>
        work (Machine.complain ("alias: " ++ arg ++ " not found"))
        status := 1
  return status

def removeAliases : Builtin := fun args => do
  let (flags, args) ← takeFlags ['a'] args
  if flags.contains 'a' then
    modify fun s => { s with aliases := [] }
    return 0
  let known := (← get).aliases
  for name in args do
    if (known.lookup name).isNone then
      work (Machine.complain ("unalias: " ++ name ++ " not found"))
  modify fun s => { s with aliases := s.aliases.filter fun e => !args.contains e.1 }
  return if args.all fun name => (known.lookup name).isSome then 0 else 1

/-- Names of commands of the language that are not special. -/
def regularBuiltins : List String :=
  ["[", "alias", "bg", "cd", "chdir", "command", "echo", "false", "fg", "getopts", "hash",
   "jobs", "kill", "printf", "pwd", "read", "test", "true", "type", "ulimit", "umask", "unalias",
   "wait"]

/-- The file that a search finds, one that can be run if a command is meant. -/
def searchFile? (isCommand : Bool) (name : Bytes) : Act (Option Bytes) := do
  let p := (← get).process
  let isFile (path : Bytes) : Bool :=
    match p.world.files.status p.cwd (Bytes.toText path) with
    | .ok (_, .file _ executable) => executable || !isCommand
    | _ => false
  let path := (← value? "PATH").getD ""
  return ((path.splitOn ":").map fun dir =>
    if dir.isEmpty then name else dir ++ "/" ++ name).find? isFile

/-- What a name is as a command: in words, or as it can be used. -/
def describeCommand (inWords : Bool) (name : Bytes) : Act Nat := do
  let s ← get
  let tell (words use : Bytes) : Act Nat := do
    say ((if inWords then name ++ words else use) ++ "\n")
    return 0
  if keywords.contains name then tell " is a shell keyword" name
  else if let some value := s.aliases.lookup name then
    tell (" is an alias for " ++ value) ("alias " ++ name ++ "=" ++ inQuotes value)
  else if (s.functions.lookup name).isSome then tell " is a shell function" name
  else if specialBuiltins.contains name then tell " is a special shell builtin" name
  else if regularBuiltins.contains name then tell " is a shell builtin" name
  else
    let found? ← if name.toList.contains '/' then do
        match Machine.executable s.process.world.files s.process.cwd name with
        | .ok _ => pure (some name)
        | .error _ => pure none
      else searchFile? true name
    match found? with
    | some path => tell (" is " ++ path) path
    | none =>
      if inWords then say (name ++ ": not found\n")
      return 127

def describeAll (inWords : Bool) : Builtin := fun names => do
  let mut status := 0
  for name in names do
    let result ← describeCommand inWords name
    if result != 0 then status := result
  return status

def hashCommands : Builtin := fun args => do
  let (_, names) ← takeFlags ['r', 'v'] args
  let mut status := 0
  for name in names do
    let known := specialBuiltins.contains name || regularBuiltins.contains name ||
      ((← get).functions.lookup name).isSome
    if !known && (← searchFile? true name).isNone then
      complain (name ++ ": not found")
      status := 1
  return status

/-- Commands that need nothing but their arguments. -/
def builtin? : String → Option Builtin
  | ":" | "true" | "jobs" => some fun _ => return 0
  | "bg" | "fg" => some fun _ => fault "No current job"
  | "hash" => some hashCommands
  | "false" => some fun _ => return 1
  | "cd" | "chdir" => some changeDirectory
  | "pwd" => some printDirectory
  | "echo" => some fun args => do
    say (Format.echo args)
    return 0
  | "printf" => some printFormat
  | "test" => some testCondition
  | "[" => some testBracket
  | "break" => some (leaveLoops .leave)
  | "continue" => some (leaveLoops .again)
  | "export" => some (declare "export" Variable.exported fun v => { v with exported := true })
  | "readonly" => some (declare "readonly" Variable.fixed fun v => { v with fixed := true })
  | "local" => some declareLocal
  | "unset" => some unsetNames
  | "shift" => some shiftArguments
  | "set" => some setOrList
  | "read" => some readVariables
  | "trap" => some setTraps
  | "umask" => some changeMask
  | "getopts" => some nextOption
  | "alias" => some setAliases
  | "unalias" => some removeAliases
  | "type" => some (describeAll true)
  | "times" => some fun _ => do
    say "0m0.000000s 0m0.000000s\n0m0.000000s 0m0.000000s\n"
    return 0
  | "ulimit" => some fun _ => do
    say "unlimited\n"
    return 0
  | _ => none

end DocLaunch.Shell
