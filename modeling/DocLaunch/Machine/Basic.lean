import DocLaunch.FileSystem.Access
import DocLaunch.Machine.Bytes
import DocLaunch.Process.Basic

namespace DocLaunch.Machine

/-- Where an open file leads. -/
inductive Channel where
  /-- The output or the complaints of the first process. -/
  | output
  | errors
  | nothing
  | file (place : Place) (position : Nat) (reads writes append : Bool)
  /--
  What is written to a pipe is read from it in the same order: first what is ready, then the texts
  that were written, of which the last one comes first.
  -/
  | pipe (ready : List Char) (written : List Bytes) (size : Nat)
  deriving Inhabited

structure World where
  files : FileSystem
  channels : Array Channel
  /-- The texts that were put out, the last one first. -/
  output : List Bytes
  complained : Bool
  /-- The number of the next process. -/
  nextId : Nat
  /-- Signals that were sent and have not been noticed: the process and the signal. -/
  signals : List (Nat × Nat)
  /-- Processes that have not ended. -/
  living : List Nat

structure Process where
  world : World
  id : Nat
  parent : Nat
  cwd : Place
  /-- The channel behind each number of an open file. -/
  descriptors : List (Nat × Nat)
  /-- Variables, each with its name, an equals sign and its value. -/
  environment : List Bytes
  /-- Output that has not been written yet. -/
  held : Bytes := ""
  /-- Permissions that new files do not get. -/
  mask : Nat := 18
  /-- Signals that do nothing. -/
  ignored : List Nat := []

abbrev Work := StateM Process

def badDescriptor : SystemFault := .numbered 9
def brokenPipe : SystemFault := .numbered 32

def reason (e : SystemFault) : Bytes :=
  match e with
  | .numbered n => (errorTexts.lookup n).getD ("Unknown error " ++ toString n)
  | e => e.message

def files : Work FileSystem := do
  return (← get).world.files

def setFiles (files : FileSystem) : Work Unit :=
  modify fun p => { p with world.files := files }

def channelOf? (fd : Nat) : Work (Option (Nat × Channel)) := do
  let p ← get
  return (p.descriptors.lookup fd).map fun i => (i, p.world.channels[i]!)

def setChannel (i : Nat) (c : Channel) : Work Unit :=
  modify fun p => { p with world.channels := p.world.channels.set! i c }

def addChannel (c : Channel) : Work Nat := do
  let p ← get
  set { p with world.channels := p.world.channels.push c }
  return p.world.channels.size

def connect (fd channel : Nat) : Work Unit :=
  modify fun p => { p with descriptors := (fd, channel) :: p.descriptors.filter (·.1 != fd) }

def close (fd : Nat) : Work Unit :=
  modify fun p => { p with descriptors := p.descriptors.filter (·.1 != fd) }

/-- Bytes put into others at a position, over what stands there. -/
def overwrite (old : ByteArray) (position : Nat) (new : ByteArray) : ByteArray :=
  let gap : ByteArray := ⟨Array.replicate (position - old.size) 0⟩
  old.extract 0 position ++ gap ++ new ++ old.extract (position + new.size) old.size

/-- A pipe holds so many bytes that nobody reads; then its writer is stopped. -/
def pipeLimit : Nat := 1000000

def write (fd : Nat) (text : Bytes) : Work (Except SystemFault Unit) := do
  match ← channelOf? fd with
  | none => return .error badDescriptor
  | some (i, c) =>
    match c with
    | .output => modify fun p => { p with world.output := text :: p.world.output }
    | .errors => modify fun p =>
        { p with world.complained := p.world.complained || !text.isEmpty }
    | .nothing => pure ()
    | .pipe ready written size =>
      if pipeLimit < size then return .error brokenPipe
      setChannel i (.pipe ready (text :: written) (size + text.utf8ByteSize))
    | .file place position reads writes append =>
      if !writes then return .error badDescriptor
      if let some (.file content executable) := (← files).node? place then
        let position := if append then content.size else position
        let new := overwrite content position (Bytes.toByteArray text)
        setFiles ((← files).set place (.file new executable))
        setChannel i (.file place (position + text.length) reads writes append)
    return .ok ()

/-- The characters of texts, of which the last one comes first. -/
def charsOf (written : List Bytes) (after : List Char) : List Char :=
  written.foldl (fun after text => text.toList ++ after) after

/-- Where the line of a file that begins at a position ends. -/
def lineEnd (content : ByteArray) : Nat → Nat → Nat
  | 0, position => position
  | n + 1, position =>
    if h : position < content.size then
      if content[position] = 10 then position + 1 else lineEnd content n (position + 1)
    else position

/-- The first line of a text with its end, if it has one, and the rest. -/
def splitLine (text : List Char) : List Char × List Char :=
  let line := text.takeWhile (· != '\n')
  match text.drop line.length with
  | [] => (line, [])
  | _ :: rest => (line ++ ['\n'], rest)

/-- Read an open file, up to the end of a line or all of it. At the end there is nothing. -/
def read (wholly : Bool) (fd : Nat) : Work (Except SystemFault (List Char)) := do
  match ← channelOf? fd with
  | none => return .error badDescriptor
  | some (i, c) =>
    match c with
    | .pipe ready written size =>
      let (all, written, size) :=
        if wholly || !ready.contains '\n' then (ready ++ charsOf written [], [], size)
        else (ready, written, size)
      let (text, rest) := if wholly then (all, []) else splitLine all
      setChannel i (.pipe rest written (size - text.length))
      return .ok text
    | .file place position reads writes append =>
      if !reads then return .error badDescriptor
      match (← files).node? place with
      | some (.file content _) =>
        let stop := if wholly then max position content.size
          else lineEnd content (content.size - position) position
        setChannel i (.file place stop reads writes append)
        return .ok (Bytes.ofByteArray (content.extract position stop)).toList
      | some .directory => return .error .isDirectory
      | _ => return .ok []
    | .errors | .output | .nothing => return .ok []

def readAll (fd : Nat) : Work (Except SystemFault Bytes) := do
  return (← read true fd).map String.ofList

def readLine (fd : Nat) : Work (Except SystemFault (List Char)) :=
  read false fd

/-- Put text back in front of what is left to read. -/
def unread (fd : Nat) (text : Bytes) : Work Unit := do
  if let some (i, c) ← channelOf? fd then
    match c with
    | .pipe ready written size =>
      setChannel i (.pipe (text.toList ++ ready) written (size + text.length))
    | .file place position reads writes append =>
      setChannel i (.file place (position - text.length) reads writes append)
    | _ => pure ()

def addPipe (text : Bytes) : Work Nat :=
  addChannel (.pipe text.toList [] text.length)

def drain (channel : Nat) : Work Bytes := do
  match (← get).world.channels[channel]? with
  | some (.pipe ready written _) =>
    setChannel channel .nothing
    return String.ofList (ready ++ charsOf written [])
  | _ => return ""

structure Opening where
  reads : Bool := false
  writes : Bool := false
  append : Bool := false
  /-- Make the file if it is missing. -/
  makes : Bool := false
  /-- Drop what the file holds. -/
  clears : Bool := false
  /-- Refuse a file that is there. -/
  fresh : Bool := false

namespace Opening

def read : Opening := { reads := true }
def create : Opening := { writes := true, makes := true, clears := true }
def createFresh : Opening := { create with fresh := true }
def extend : Opening := { writes := true, makes := true, append := true }
def change : Opening := { reads := true, writes := true, makes := true }

end Opening

/-- Paths that stand for what is already open. -/
def openAlready? (path : String) : Option Nat :=
  match path with
  | "/dev/stdin" | "/proc/self/fd/0" => some 0
  | "/dev/stdout" | "/proc/self/fd/1" => some 1
  | "/dev/stderr" | "/proc/self/fd/2" => some 2
  | _ =>
    match path.toList with
    | '/' :: 'd' :: 'e' :: 'v' :: '/' :: 'f' :: 'd' :: '/' :: n => (String.ofList n).toNat?
    | _ => none

def openPath (path : Bytes) (how : Opening) : Work (Except SystemFault Nat) := do
  let path := Bytes.toText path
  if let some fd := openAlready? path then
    match (← get).descriptors.lookup fd with
    | some i => return .ok i
    | none => return .error .notFound
  let fs ← files
  match fs.find (if how.makes then .followPlain else .follow) (← get).cwd path with
  | .error e => return .error e
  | .ok t =>
    let opened (place : Place) : Work (Except SystemFault Nat) := do
      if place = ["null", "dev"] then return .ok (← addChannel .nothing)
      return .ok (← addChannel (.file place 0 how.reads how.writes how.append))
    match t.node? with
    | none =>
      if !how.makes then return .error .notFound
      else if t.slash then return .error .isDirectory
      else
        setFiles (fs.set t.place (.file .empty false))
        opened t.place
    | some (.file content executable) =>
      if t.slash then return .error .notDirectory
      else if how.fresh && t.place != ["null", "dev"] then return .error .alreadyThere
      else
        if how.clears && content.size != 0 then
          setFiles (fs.set t.place (.file .empty executable))
        opened t.place
    | some .directory => if how.writes then return .error .isDirectory else opened t.place
    | some (.link _) => return .error .tooManyLinks

/-- Write the output that is held back. -/
def flush : Work (Except SystemFault Unit) := do
  let p ← get
  if p.held.isEmpty then return .ok ()
  set { p with held := "" }
  write 1 p.held

def say (text : Bytes) : Work Unit :=
  modify fun p => { p with held := p.held ++ text }

/-- Write a line to the error stream at once. -/
def complain (text : Bytes) : Work Unit := do
  let _ ← write 2 (text ++ "\n")

def Process.fork (p : Process) : Process :=
  let id := p.world.nextId
  { p with
    id, parent := p.id, held := ""
    world := { p.world with nextId := id + 1, living := id :: p.world.living } }

def World.without (w : World) (id : Nat) : World :=
  { w with living := w.living.filter (· != id), signals := w.signals.filter (·.1 != id) }

/-- Run something as a new process, of which nothing stays but what it did to the world. -/
def forked {α : Type} (work : Work α) : Work α := do
  let p ← get
  let q := p.fork
  let (a, r) := work q
  set { p with world := r.world.without q.id }
  return a

end DocLaunch.Machine
