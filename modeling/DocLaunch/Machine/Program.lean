import DocLaunch.Machine.Basic

namespace DocLaunch.Machine

/-- Where programs are searched for if nothing says otherwise. -/
def defaultSearchPath : Bytes := "/bin:/usr/bin"

/-- The file of a tool that is on every machine: a mark and its name. -/
def toolFile (name : String) : ByteArray :=
  ("\x7fELF" ++ name).toUTF8

def toolName? (content : ByteArray) : Option String := do
  if content.size < 5 || content.get! 0 != 0x7f then none
  else
    match (← String.fromUTF8? (content.extract 0 64)).toList with
    | '\x7f' :: 'E' :: 'L' :: 'F' :: name => some (String.ofList name)
    | _ => none

/-- The file that a path names, if it may be run. -/
def executable (fs : FileSystem) (cwd : Place) (p : Bytes) : Except SystemFault ByteArray := do
  match ← fs.status cwd (Bytes.toText p) with
  | (_, .file content true) => .ok content
  | _ => .error .accessDenied

def isBlank (c : Char) : Bool := c == ' ' || c == '\t'

/-- The interpreter and its argument in the first line of a script. -/
def interpreter? (content : ByteArray) : Option (Bytes × List Bytes) :=
  let line := (Bytes.ofByteArray (content.extract 0 255)).toList.takeWhile (· != '\n')
  match line with
  | '#' :: '!' :: rest =>
    let rest := rest.dropWhile isBlank
    let path := rest.takeWhile (!isBlank ·)
    let arg := ((rest.dropWhile (!isBlank ·)).dropWhile isBlank).reverse.dropWhile isBlank
    if path.isEmpty then none
    else some (String.ofList path, if arg.isEmpty then [] else [String.ofList arg.reverse])
  | _ => none

/-- So many files are looked at, each but the first as the interpreter of the one before. -/
def maxInterpreters : Nat := 6

/-- A program that has been found: a tool, and all its arguments with its name. -/
structure Loaded where
  tool : String
  args : List Bytes
  deriving DecidableEq, Repr

/-- Runs a program that has been found, in the process that it is called in. -/
abbrev Launch := Loaded → Work WaitStatus

def load (fs : FileSystem) (cwd : Place) :
    Nat → Bytes → List Bytes → Except SystemFault Loaded
  | 0, _, _ => .error .tooManyLinks
  | n + 1, p, args => do
    let content ← executable fs cwd p
    match toolName? content with
    | some tool => .ok ⟨tool, args⟩
    | none =>
      match interpreter? content with
      | none => .error .notExecutable
      | some (interpreter, first) =>
        load fs cwd n interpreter (interpreter :: first ++ p :: args.drop 1)

/-- How a file without any interpreter is run, if it is run. -/
abbrev Fallback := Bytes → List Bytes → Option Loaded

def noFallback : Fallback := fun _ _ => none

/-- The command language runs such a file. -/
def shellFallback : Fallback := fun p args => some ⟨"sh", "/bin/sh" :: p :: args.drop 1⟩

def attempt (fs : FileSystem) (cwd : Place) (fallback : Fallback) (args : List Bytes) (p : Bytes) :
    Except SystemFault Loaded :=
  match load fs cwd maxInterpreters p args with
  | .error e =>
    if e = .notExecutable then
      match fallback p args with
      | some loaded => .ok loaded
      | none => .error e
    else .error e
  | found => found

/--
Try the directories in turn. Where none has the program, the last refusal counts, but one for want
of a right counts most.
-/
def searchIn (attempt : Bytes → Except SystemFault Loaded) (program : Bytes)
    (refusal : SystemFault) : List Bytes → Except SystemFault Loaded
  | [] => .error refusal
  | dir :: dirs =>
    match attempt (if dir.isEmpty then program else dir ++ "/" ++ program) with
    | .ok loaded => .ok loaded
    | .error e =>
      if e = .accessDenied ∨ e = .notFound ∨ e = .notDirectory then
        searchIn attempt program (if refusal = .accessDenied then refusal else e) dirs
      else .error e

/-- Find and load the program of a command. Only a name without a slash is searched for. -/
def resolve (fs : FileSystem) (cwd : Place) (searchPath : Option Bytes) (fallback : Fallback)
    (program : Bytes) (args : List Bytes) : Except SystemFault Loaded :=
  let attempt := attempt fs cwd fallback (program :: args)
  if program.isEmpty then .error .notFound
  else if program.toList.contains '/' then attempt program
  else if FileSystem.maxName < program.length then .error .nameTooLong
  else searchIn attempt program .notFound ((searchPath.getD defaultSearchPath).splitOn ":")

def lookup? (environment : List Bytes) (name : String) : Option Bytes :=
  environment.findSome? fun e =>
    let cs := e.toList
    if (name.toList ++ ['=']).isPrefixOf cs then some (String.ofList (cs.drop (name.length + 1)))
    else none

end DocLaunch.Machine
