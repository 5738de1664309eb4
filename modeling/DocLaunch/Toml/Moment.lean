import DocLaunch.Text.Basic

namespace DocLaunch.Toml

open Text

structure Date where
  year : Nat
  month : Nat
  day : Nat
  deriving DecidableEq, Repr

/-- A time of day; the sixtieth second is a leap second. -/
structure Clock where
  hour : Nat
  minute : Nat
  second : Nat
  nanosecond : Nat
  deriving DecidableEq, Repr

/-- How far a clock is ahead of universal time. -/
inductive Offset where
  | universal
  | minutes (ahead : Int)
  deriving DecidableEq, Repr

/-- A date, a time of day, or both, the latter perhaps with an offset. -/
inductive Moment where
  | date (d : Date)
  | clock (c : Clock)
  | both (d : Date) (c : Clock) (offset : Option Offset)
  deriving DecidableEq, Repr

/-- A number of two digits within bounds. -/
def readTwo (low high : Nat) (cs : List Char) : Option (Nat × List Char) := do
  let (n, rest) ← readFixed 10 2 cs
  if low ≤ n ∧ n ≤ high then some (n, rest) else none

def readMark (c : Char) : List Char → Option (List Char)
  | [] => none
  | d :: rest => if c = d then some rest else none

def isLeapYear (year : Nat) : Bool :=
  year % 4 == 0 && (year % 100 != 0 || year % 400 == 0)

def daysOfMonth (year month : Nat) : Nat :=
  if month = 2 then (if isLeapYear year then 29 else 28)
  else if month ∈ [4, 6, 9, 11] then 30 else 31

def Date.read (cs : List Char) : Option (Date × List Char) := do
  let (year, cs) ← readFixed 10 4 cs
  let cs ← readMark '-' cs
  let (month, cs) ← readTwo 1 12 cs
  let cs ← readMark '-' cs
  let (day, cs) ← readTwo 1 (daysOfMonth year month) cs
  some (⟨year, month, day⟩, cs)

/-- Digits after the point, of which the first nine count. -/
def readFraction (cs : List Char) : Nat × List Char :=
  match cs with
  | '.' :: rest =>
    let digits := rest.takeWhile Char.isDigit
    if digits.isEmpty then (0, cs)
    else (valueOf 10 ((digits ++ List.replicate 9 '0').take 9), rest.dropWhile Char.isDigit)
  | _ => (0, cs)

def Clock.read (cs : List Char) : Option (Clock × List Char) := do
  let (hour, cs) ← readTwo 0 23 cs
  let cs ← readMark ':' cs
  let (minute, cs) ← readTwo 0 59 cs
  let cs ← readMark ':' cs
  let (second, cs) ← readTwo 0 60 cs
  let (nanosecond, cs) := readFraction cs
  some (⟨hour, minute, second, nanosecond⟩, cs)

/-- Hours and minutes of an offset. -/
def Offset.readSize (cs : List Char) : Option (Nat × List Char) := do
  let (hour, cs) ← readTwo 0 23 cs
  let cs ← readMark ':' cs
  let (minute, cs) ← readTwo 0 59 cs
  some (60 * hour + minute, cs)

def Offset.read : List Char → Option (Offset × List Char)
  | 'Z' :: rest | 'z' :: rest => some (.universal, rest)
  | '+' :: rest => (Offset.readSize rest).map fun (n, rest) => (.minutes n, rest)
  | '-' :: rest => (Offset.readSize rest).map fun (n, rest) => (.minutes (-n), rest)
  | _ => none

/-- What follows a date: a time of day behind `T` or a blank, if there is one. -/
def Moment.readAfterDate (d : Date) (cs : List Char) : Moment × List Char :=
  match cs with
  | [] => (.date d, cs)
  | c :: rest =>
    if c = 'T' ∨ c = 't' ∨ c = ' ' then
      match Clock.read rest with
      | none => (.date d, cs)
      | some (time, rest) =>
        match Offset.read rest with
        | none => (.both d time none, rest)
        | some (offset, rest) => (.both d time (some offset), rest)
    else (.date d, cs)

def Moment.read (cs : List Char) : Option (Moment × List Char) :=
  match Date.read cs with
  | some (d, rest) => some (Moment.readAfterDate d rest)
  | none => (Clock.read cs).map fun (c, rest) => (.clock c, rest)

def Date.toText (d : Date) : List Char :=
  padded 4 d.year ++ '-' :: (padded 2 d.month ++ '-' :: padded 2 d.day)

/-- The fraction is written without trailing zeros. -/
def Clock.toText (c : Clock) : List Char :=
  let fraction := ((padded 9 c.nanosecond).reverse.dropWhile (· == '0')).reverse
  padded 2 c.hour ++ ':' :: (padded 2 c.minute ++ ':' :: (padded 2 c.second ++
    (if fraction.isEmpty then [] else '.' :: fraction)))

def Offset.toText : Offset → List Char
  | .universal => ['Z']
  | .minutes ahead =>
    (if ahead < 0 then '-' else '+') ::
      (padded 2 (ahead.natAbs / 60) ++ ':' :: padded 2 (ahead.natAbs % 60))

def Moment.toText : Moment → List Char
  | .date d => d.toText
  | .clock c => c.toText
  | .both d c none => d.toText ++ 'T' :: c.toText
  | .both d c (some offset) => d.toText ++ 'T' :: (c.toText ++ offset.toText)

end DocLaunch.Toml
