import DocLaunch.Shell.Expansion

namespace DocLaunch.Shell

open Machine (Bytes Opening)

inductive Target where
  | file (kind : RedirectKind) (fd : Nat) (path : Bytes)
  | copy (fd source : Nat)
  | closed (fd : Nat)
  /-- A text that is put in only when the redirection comes into force. -/
  | document (fd : Nat) (word : Word)

/-- The number whose open file changes. -/
def Target.fd : Target → Nat
  | .file _ fd _ | .copy fd _ | .closed fd | .document fd _ => fd

def Redirect.expand (capture : Capture) : Redirect → Act Target
  | .document fd number => do
    return .document fd (((← get).documents.lookup number).getD [])
  | .file kind fd w => do
    let text ← expandSingle capture .single w
    if kind = .duplicate then
      match text.toList with
      | ['-'] => return .closed fd
      | [c] => if c.isDigit then return .copy fd (c.toNat - '0'.toNat)
      | _ => pure ()
      fault "Syntax error: Bad fd number"
    else return .file kind fd text

/-- What is wrong with a path that is opened, made or run; `missing` says that nothing is there. -/
def openReason (missing : String) (e : SystemFault) : Bytes :=
  if e = .notFound ∨ e = .notDirectory then missing else Machine.reason e

/-- How the file of a redirection is opened, or why it must not be. -/
def openingOf (kind : RedirectKind) (path : Bytes) : Act (Except SystemFault Opening) := do
  match kind with
  | .read => return .ok .read
  | .readWrite => return .ok .change
  | .append => return .ok .extend
  | .clobber | .duplicate => return .ok .create
  | .write =>
    if ← hasOption 'C' then
      let p := (← get).process
      match p.world.files.status p.cwd (Bytes.toText path) with
      | .error _ => return .ok .createFresh
      | .ok (place, .file ..) =>
        if place = ["null", "dev"] then return .ok .create else return .error .alreadyThere
      | .ok _ => return .ok .create
    else return .ok .create

/-- Put a redirection into force. The result tells whether it could be. -/
def Target.apply (capture : Capture) : Target → Act Bool
  | .document fd word => do
    let text? : Option Bytes ← tryCatch (some <$> expandSingle capture .plain word) fun stop =>
      if stop = .faulted then return none else throw stop
    match text? with
    | none => return false
    | some text =>
      work (do Machine.connect fd (← Machine.addPipe text))
      return true
  | .closed fd => do
    work (Machine.close fd)
    return true
  | .copy fd source => do
    match (← get).process.descriptors.lookup source with
    | some channel =>
      work (Machine.connect fd channel)
      return true
    | none =>
      complain (toString source ++ ": Bad file descriptor")
      return false
  | .file kind fd path => do
    let opened ← match ← openingOf kind path with
      | .error e => pure (.error e)
      | .ok opening => work (Machine.openPath path opening)
    match opened with
    | .ok channel =>
      work (Machine.connect fd channel)
      return true
    | .error e =>
      let makes := kind = .write ∨ kind = .append ∨ kind = .clobber
      let text := if makes then "create " ++ path ++ ": " ++ openReason "Directory nonexistent" e
        else "open " ++ path ++ ": " ++ openReason "No such file" e
      complain ("cannot " ++ text)
      return false

def applyAll (capture : Capture) : List Target → Act Bool
  | [] => return true
  | t :: ts => do
    if ← t.apply capture then applyAll capture ts else return false

/-- Run something after which the open files of some numbers are as before. -/
def keepingFiles {α : Type} (fds : List Nat) (act : Act α) : Act α := do
  let before := (← get).process.descriptors.filter fun e => fds.contains e.1
  ensuring act (modify fun s =>
    let others := s.process.descriptors.filter fun e => !fds.contains e.1
    { s with process := { s.process with descriptors := before ++ others } })

end DocLaunch.Shell
