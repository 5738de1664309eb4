import DocLaunch.Machine.Basic
import DocLaunch.Shell.Pattern
import DocLaunch.Shell.Source

namespace DocLaunch.Shell

open Machine (Bytes Process Work)

structure Variable where
  value? : Option Bytes := none
  exported : Bool := false
  fixed : Bool := false
  deriving Inhabited

structure Job where
  id : Nat
  work? : Option (Machine.World → WaitStatus × Machine.World)
  status : WaitStatus

structure Function where
  line : Nat
  body : Script

structure State where
  process : Process
  name : Bytes
  args : List Bytes
  bindings : List (String × Variable) := []
  functions : List (String × Function) := []
  aliases : List (String × Bytes) := []
  /-- Texts of scripts by their numbers. -/
  documents : List (Nat × Word) := []
  nextDocument : Nat := 0
  status : Nat := 0
  /-- The status to end with that was there before a trap, or that was asked for. -/
  saved? : Option Nat := none
  /-- The status of the last substitution of a command. -/
  captured : Nat := 0
  /-- The letters of the options that are on. -/
  options : List Char := []
  /-- What to do on a signal; the number 0 stands for the end of the shell. -/
  traps : List (Nat × Bytes) := []
  jobs : List Job := []
  lastJob : Option Nat := none
  /-- Variables to be put back at the end of functions, the inmost function first. -/
  kept : List (List (String × Option Variable)) := []
  line : Nat := 1
  /-- The command that complaints come from. -/
  command? : Option String := none
  /-- The working directory as it was gone to. -/
  directory : Bytes
  loops : Nat := 0
  functionDepth : Nat := 0
  /-- The process that the whole script runs in. -/
  mainId : Nat
  /-- The argument that `getopts` looks at next, and how far it is in the one before it. -/
  optionIndex : Nat := 1
  optionOffset? : Option Nat := none

/-- Why the commands that follow are not run. -/
inductive Stop where
  | leave (loops : Nat)
  | again (loops : Nat)
  | returned
  | ended
  /-- The process ends in this way, and does nothing more. -/
  | gone (status : WaitStatus)
  /-- A fault after which no script goes on. -/
  | faulted
  deriving DecidableEq, Repr

abbrev Act := ExceptT Stop (StateM State)

/-- How a command is run: whether its failure is looked at, and whether it is the last one. -/
structure Mode where
  tested : Bool := false
  last : Bool := false

/-- Runs a script; its status is that of the state. -/
abbrev Runner := Mode → Script → Act Unit

def work {α : Type} (w : Work α) : Act α := do
  let s ← get
  let (a, p) := w s.process
  set { s with process := p }
  return a

/-- Run something, and something else after it however it ends. -/
def ensuring {α : Type} (act : Act α) (after : Act Unit) : Act α := do
  let a ← tryCatch act fun stop => do
    after
    throw stop
  after
  return a

def setStatus (n : Nat) : Act Unit :=
  modify fun s => { s with status := n }

def complain (message : Bytes) : Act Unit := do
  let s ← get
  let command := match s.command? with
    | some c => c ++ ": "
    | none => ""
  work (Machine.complain (s.name ++ ": " ++ toString s.line ++ ": " ++ command ++ message))

/-- A complaint after which the command, and in most places the script, ends. -/
def fault {α : Type} (message : Bytes) : Act α := do
  complain message
  setStatus 2
  throw .faulted

def hasOption (c : Char) : Act Bool := do
  return (← get).options.contains c

def binding? (name : String) : Act (Option Variable) := do
  return (← get).bindings.lookup name

def value? (name : String) : Act (Option Bytes) := do
  return (← binding? name).bind Variable.value?

def putVariable (name : String) (v : Option Variable) : Act Unit :=
  modify fun s =>
    let others := s.bindings.filter (·.1 != name)
    { s with bindings := match v with
        | some v => (name, v) :: others
        | none => others }

/-- Give a variable a value, unless it is fixed. -/
def assign (name : String) (value : Bytes) : Act Unit := do
  let v := (← binding? name).getD {}
  if v.fixed then fault (name ++ ": is read only")
  let exported := v.exported || (← hasOption 'a')
  putVariable name (some { v with value? := some value, exported })
  if name = "OPTIND" then
    let index := max 1 (value.toNat?.getD 1)
    modify fun s => { s with optionIndex := index, optionOffset? := none }

/-- Change a variable in a way that keeps its value. -/
def alter (name : String) (change : Variable → Variable) : Act Unit := do
  putVariable name (some (change ((← binding? name).getD {})))

def unset (name : String) : Act Unit := do
  if (← binding? name).any Variable.fixed then fault (name ++ ": is read only")
  putVariable name none

/-- Put a variable back as it is now at the end of the function. -/
def keep (name : String) : Act Unit := do
  let now ← binding? name
  modify fun s => match s.kept with
    | [] => s
    | frame :: frames =>
      if frame.any (·.1 == name) then s else { s with kept := ((name, now) :: frame) :: frames }

/-- Run something; what variables it keeps get their values back. -/
def framed {α : Type} (act : Act α) : Act α := do
  modify fun s => { s with kept := [] :: s.kept }
  let restore : Act Unit := do
    match (← get).kept with
    | [] => return
    | frame :: frames =>
      modify fun s => { s with kept := frames }
      for (name, v) in frame do putVariable name v
  ensuring act restore

def environment : Act (List Bytes) := do
  return (← get).bindings.filterMap fun (name, v) =>
    if v.exported then v.value?.map fun value => name ++ "=" ++ value else none

def separators : Act (List Char) := do
  return ((← value? "IFS").getD " \t\n").toList

end DocLaunch.Shell
