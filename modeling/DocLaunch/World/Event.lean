import DocLaunch.Process.Basic

namespace DocLaunch

inductive Level where
  | debug
  | info
  deriving DecidableEq, Repr

inductive LogValue where
  | text (s : String)
  | number (n : Int)
  | flag (b : Bool)
  /-- The time that something took, which is not shown. -/
  | elapsed
  deriving DecidableEq, Repr

/-- A stretch of work that log entries may lie in, and what is known about it. -/
structure Span where
  area : String
  name : String
  fields : List (String × LogValue)
  deriving DecidableEq, Repr

/--
A log entry; the area is the part of the program that log filters know it by. The spans are those
that it lies in, the inmost one first.
-/
structure Record where
  level : Level
  area : String
  message : String
  fields : List (String × LogValue)
  spans : List Span := []
  deriving DecidableEq, Repr

inductive Event where
  | logged (r : Record)
  | printed (text : String)
  /-- A process that was asked for, and what came of it. -/
  | started (s : Spawn) (c : Child)

namespace Event

def output : Event → String
  | logged _ => ""
  | printed text => text
  | started _ c => c.output

def record? : Event → Option Record
  | logged r => some r
  | _ => none

def complained : Event → Bool
  | started _ c => c.complained
  | _ => false

end Event
end DocLaunch
