import DocLaunch.Machine.Basic

namespace DocLaunch.Tool

open Machine (Bytes Process Work)

/-- A tool by the name that it is called by and its arguments. It gives its status. -/
abbrev Utility := Bytes → List Bytes → Work Nat

inductive OptionValue where
  | none
  | required
  | optional
  deriving DecidableEq, Repr

/-- An option with its letter and its long name, one of which may be missing. -/
structure OptionRule where
  letter? : Option Char
  name : String := ""
  value : OptionValue := .none

def flag (c : Char) (name : String := "") : OptionRule := ⟨some c, name, .none⟩
def valued (c : Char) (name : String := "") : OptionRule := ⟨some c, name, .required⟩
def named (name : String) (value : OptionValue := .none) : OptionRule := ⟨none, name, value⟩

/-- What an option is known by once it has been read. -/
def OptionRule.key (r : OptionRule) : String :=
  match r.letter? with
  | some c => c.toString
  | none => r.name

/-- Options in the order in which they stand, with their values, and the other arguments. -/
structure Options where
  given : List (String × Option Bytes)
  operands : List Bytes

namespace Options

def has (o : Options) (key : String) : Bool := o.given.any (·.1 == key)

def value? (o : Options) (key : String) : Option Bytes :=
  (o.given.reverse.lookup key).join

def values (o : Options) (key : String) : List Bytes :=
  o.given.filterMap fun e => if e.1 = key then e.2 else none

def last? (o : Options) (keys : List String) : Option String :=
  (o.given.reverse.find? fun e => keys.contains e.1).map Prod.fst

/-- Options that are letters behind one sign. The result tells if the next argument is used up. -/
def readLetters (rules : List OptionRule) (next? : Option Bytes) :
    List Char → Except Bytes (List (String × Option Bytes) × Bool)
  | [] => .ok ([], false)
  | c :: cs => do
    match rules.find? (·.letter? == some c) with
    | none => .error ("invalid option -- '" ++ c.toString ++ "'")
    | some rule =>
      match rule.value with
      | .none =>
        let (more, used) ← readLetters rules next? cs
        return ((rule.key, none) :: more, used)
      | .optional =>
        let value? := if cs.isEmpty then none else some (String.ofList cs)
        return ([(rule.key, value?)], false)
      | .required =>
        if !cs.isEmpty then return ([(rule.key, some (String.ofList cs))], false)
        match next? with
        | some value => return ([(rule.key, some value)], true)
        | none => .error ("option requires an argument -- '" ++ c.toString ++ "'")

def readLong (rules : List OptionRule) (next? : Option Bytes) (text : List Char) :
    Except Bytes ((String × Option Bytes) × Bool) := do
  let name := String.ofList (text.takeWhile (· != '='))
  let value? := if name.length < text.length
    then some (String.ofList (text.drop (name.length + 1))) else none
  let fitting := rules.filter fun r => !r.name.isEmpty && r.name.startsWith name
  let rule ← match rules.find? (fun r => !r.name.isEmpty && r.name == name), fitting with
    | some rule, _ | none, [rule] => .ok rule
    | none, [] => .error ("unrecognized option '--" ++ name ++ "'")
    | none, several =>
      let names := several.map fun r => " '--" ++ r.name ++ "'"
      .error ("option '--" ++ name ++ "' is ambiguous; possibilities:" ++ String.join names)
  match rule.value, value?, next? with
  | .none, some _, _ => .error ("option '--" ++ rule.name ++ "' doesn't allow an argument")
  | .none, none, _ | .optional, none, _ => return ((rule.key, none), false)
  | _, some value, _ => return ((rule.key, some value), false)
  | .required, none, some value => return ((rule.key, some value), true)
  | .required, none, none => .error ("option '--" ++ rule.name ++ "' requires an argument")

/-- Read options; unless the first operand ends them, they may stand among operands. -/
def read (rules : List OptionRule) (mixed : Bool) : List Bytes → Except Bytes Options
  | [] => .ok ⟨[], []⟩
  | arg :: args => do
    match arg.toList with
    | ['-', '-'] => return ⟨[], args⟩
    | '-' :: '-' :: text =>
      let (option, used) ← readLong rules args.head? text
      match used, args with
      | true, _ :: args =>
        let o ← read rules mixed args
        return ⟨option :: o.given, o.operands⟩
      | _, args =>
        let o ← read rules mixed args
        return ⟨option :: o.given, o.operands⟩
    | '-' :: c :: cs =>
      let (options, used) ← readLetters rules args.head? (c :: cs)
      match used, args with
      | true, _ :: args =>
        let o ← read rules mixed args
        return ⟨options ++ o.given, o.operands⟩
      | _, args =>
        let o ← read rules mixed args
        return ⟨options ++ o.given, o.operands⟩
    | _ =>
      if mixed then
        let o ← read rules mixed args
        return ⟨o.given, arg :: o.operands⟩
      else return ⟨[], arg :: args⟩

end Options

def say (text : Bytes) : Work Unit := Machine.say text

def sayLine (text : Bytes) : Work Unit := Machine.say (text ++ "\n")

def complain (name text : Bytes) : Work Unit := do
  let _ ← Machine.flush
  Machine.complain (name ++ ": " ++ text)

def fail (name text : Bytes) (status : Nat := 1) : Work Nat := do
  complain name text
  return status

def misuse (name text : Bytes) (status : Nat := 1) : Work Nat := do
  complain name text
  Machine.complain ("Try '" ++ name ++ " --help' for more information.")
  return status

def withOptions (rules : List OptionRule) (body : Bytes → Options → Work Nat)
    (mixed : Bool := true) (status : Nat := 1) : Utility := fun name args =>
  match Options.read rules mixed args with
  | .ok o => body name o
  | .error text => misuse name text status

def quoted (s : Bytes) : Bytes :=
  if s.toList.contains '\'' && !s.toList.contains '"' then "\"" ++ s ++ "\""
  else "'" ++ "'\\''".intercalate (s.splitOn "'") ++ "'"

/-- A text that is quoted only if it would not be read as one word. -/
def quotedIfNeeded (s : Bytes) : Bytes :=
  let plain (c : Char) : Bool := c.isAlphanum || "%+,-./:@]_^".toList.contains c
  if !s.isEmpty && s.toList.all plain then s else quoted s

def contentOf (path : Bytes) : Work (Except SystemFault Bytes) := do
  if path = "-" then Machine.readAll 0
  else
    match ← Machine.openPath path .read with
    | .error e => return .error e
    | .ok channel =>
      let before := (← get).descriptors
      Machine.connect 20 channel
      let text ← Machine.readAll 20
      modify fun p => { p with descriptors := before }
      return text

/--
Give back what a tool has read of its input and does not use. A pipe takes it back only if the tool
knows beforehand how many bytes it reads.
-/
def giveBack (path : Bytes) (counted : Bool) (rest : Bytes) : Work Unit := do
  if path = "-" then
    match ← Machine.channelOf? 0 with
    | some (_, .file ..) => Machine.unread 0 rest
    | some (_, .pipe ..) => if counted then Machine.unread 0 rest
    | _ => pure ()

/-- Do something with what each file holds; the status is 1 if one cannot be read. -/
def eachContent (name : Bytes) (paths : List Bytes) (use : Bytes → Bytes → Work Unit) :
    Work Nat := do
  let mut status := 0
  for path in (if paths.isEmpty then ["-"] else paths) do
    match ← contentOf path with
    | .ok text => use path text
    | .error e =>
      complain name (quotedIfNeeded path ++ ": " ++ Machine.reason e)
      status := 1
  return status

def allContent (name : Bytes) (paths : List Bytes) : Work (List Bytes × Nat) := do
  let mut texts := []
  let mut status := 0
  for path in (if paths.isEmpty then ["-"] else paths) do
    match ← contentOf path with
    | .ok text => texts := text :: texts
    | .error e =>
      complain name (quotedIfNeeded path ++ ": " ++ Machine.reason e)
      status := 1
  return (texts.reverse, status)

/-- The lines of a text without their ends, and whether the last one has an end. -/
def splitLines (mark : Char) (text : Bytes) : List (List Char) × Bool :=
  let rec go (done : List (List Char)) (line : List Char) : List Char → List (List Char)
    | [] => (if line.isEmpty then done else line.reverse :: done).reverse
    | c :: cs => if c = mark then go (line.reverse :: done) [] cs else go done (c :: line) cs
  let cs := text.toList
  (go [] [] cs, cs.isEmpty || cs.getLast? = some mark)

def linesOf (text : Bytes) : List (List Char) := (splitLines '\n' text).1

/-- Lines put together again; the end of the last one is as it was. -/
def joinLines (lines : List (List Char)) (ended : Bool) : Bytes :=
  String.ofList ("\n".toList.intercalate lines ++ if ended && !lines.isEmpty then ['\n'] else [])

def sayLines (lines : List (List Char)) : Work Unit :=
  say (String.ofList (lines.flatMap fun l => l ++ ['\n']))

def number? (s : Bytes) : Option Nat :=
  let cs := s.toList
  if !cs.isEmpty && cs.all Char.isDigit then some (cs.foldl (fun n c =>
    10 * n + (c.toNat - '0'.toNat)) 0) else none

/-- Write what is held back and end, with `trouble` if that fails. -/
def finish (name : Bytes) (status : Nat) (trouble : Nat := 1) : Work WaitStatus := do
  match ← Machine.flush with
  | .ok _ => return .exited status
  | .error e =>
    if e = Machine.brokenPipe && !(← get).ignored.contains 13 then return .killed 13
    Machine.complain (name ++ ": write error: " ++ Machine.reason e)
    return .exited trouble

end DocLaunch.Tool
