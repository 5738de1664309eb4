import DocLaunch.Fault.System
import DocLaunch.FileSystem.Basic
import DocLaunch.StringTable

namespace DocLaunch

/-- The word of 32 bits that waiting for a process gives. -/
structure WaitStatus where
  word : UInt32
  deriving DecidableEq, Repr

inductive Ending where
  | exited (code : Nat)
  | killed (signal : Nat)
  /-- Stopped or continued, so not an end. -/
  | other
  deriving DecidableEq, Repr

namespace WaitStatus

/-- The word as a signed number. -/
def ofInt (n : Int) : WaitStatus := ⟨UInt32.ofInt n⟩

def exited (code : Nat) : WaitStatus := ⟨UInt32.ofNat (code % 256 * 256)⟩

def killed (signal : Nat) : WaitStatus := ⟨UInt32.ofNat (signal % 128)⟩

/-- The low seven bits hold the signal, the second byte the exit code. -/
def ending (w : WaitStatus) : Ending :=
  let low := w.word.toNat % 128
  if low = 0 then .exited (w.word.toNat / 256 % 256)
  else if low = 127 then .other
  else .killed low

def succeeded (w : WaitStatus) : Bool :=
  w.word == 0

/-- The exit code, which for a killed process tells the signal. -/
def exitCode (w : WaitStatus) : Nat :=
  match w.ending with
  | .exited code => code
  | .killed signal => 128 + signal
  | .other => 1

end WaitStatus

structure Spawn where
  program : String
  args : List String
  env : StringTable
  directory : Path
  /-- Whether the search path is set for this program alone. -/
  ownPath : Bool := false
  deriving DecidableEq

/-- What a child did: how it ended, or why it did not start, and what it left behind. -/
structure Child where
  result : Except SystemFault WaitStatus
  files : FileSystem
  output : String
  /-- Whether it wrote to its standard error. -/
  complained : Bool

namespace Spawn

def commandText (program : String) (args : List String) : String :=
  " ".intercalate (program :: args)

def hasNul (s : String) : Bool :=
  s.toList.contains '\x00'

/-- No part of a command can hold a NUL. -/
def holdsNul (s : Spawn) : Bool :=
  hasNul s.program || s.args.any hasNul || hasNul s.directory ||
    s.env.entries.any fun e => hasNul e.1 || hasNul e.2

/-- The name of the program in reports. -/
def shownProgram (s : Spawn) : String :=
  if hasNul s.program then "<string-with-nul>" else s.program

end Spawn

end DocLaunch
