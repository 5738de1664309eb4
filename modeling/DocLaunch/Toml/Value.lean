import DocLaunch.Number.Binary64
import DocLaunch.Toml.Moment

namespace DocLaunch.Toml

inductive Scalar where
  | text (s : String)
  | integer (i : Int)
  | decimal (x : Binary64)
  | boolean (b : Bool)
  | moment (m : Moment)
  deriving DecidableEq, Repr

/-- What made a table: its own header, the header of a table below it, a dotted key, or braces. -/
inductive Origin where
  | header
  | implied
  | dotted
  | braces
  deriving DecidableEq, Repr

/-- A mark is the number of characters from the first of a thing to the end of the document. -/
inductive Value where
  | scalar (mark : Nat) (s : Scalar)
  | array (mark : Nat) (items : List Value)
  /-- Tables under one doubled header. -/
  | tables (mark : Nat) (items : List Value)
  | table (mark : Nat) (origin : Origin) (entries : List (String × Value))
  deriving Repr

/-- One part of a dotted key. -/
structure Key where
  text : String
  mark : Nat
  deriving DecidableEq, Repr

namespace Value

def mark : Value → Nat
  | scalar mark _ | array mark _ | tables mark _ | table mark _ _ => mark

def empty : Value := table 0 .header []

end Value

abbrev Entries := List (String × Value)

def Entries.replace (entries : Entries) (key : String) (v : Value) : Entries :=
  entries.map fun e => if e.1 = key then (key, v) else e

def Entries.remove (entries : Entries) (key : String) : Entries :=
  entries.filter fun e => e.1 != key

namespace Value

/--
Follow a path of keys into a table, make the tables that are missing, and change the one at its
end. In an array of tables the path goes on in the last one. No path enters a table in braces, and
dotted keys do not enter one with a header of its own.
-/
def descend (made : Origin) (change : Value → Option Value) : List Key → Value → Option Value
  | [], v => change v
  | key :: path, table mark origin entries =>
    match entries.lookup key.text with
    | none => do
      let child ← descend made change path (table key.mark made [])
      some (table mark origin (entries ++ [(key.text, child)]))
    | some (table m o es) =>
      if o = .braces ∨ (made = .dotted ∧ o = .header) then none
      else do
        let child ← descend made change path (table m o es)
        some (table mark origin (Entries.replace entries key.text child))
    | some (tables m items) =>
      match items.getLast? with
      | none => none
      | some last => do
        let child ← descend made change path last
        some (table mark origin
          (Entries.replace entries key.text (tables m (items.dropLast ++ [child]))))
    | some _ => none
  | _ :: _, _ => none

/--
Add an entry to a table. A key with a single part belongs to the table that is written, one with
more parts to a table that dotted keys made.
-/
def addEntry (single : Bool) (key : String) (v : Value) : Value → Option Value
  | table mark origin entries =>
    if (origin == .dotted) == single then none
    else if (entries.lookup key).isSome then none
    else some (table mark origin (entries ++ [(key, v)]))
  | _ => none

def insert (path : List Key) (v : Value) (into : Value) : Option Value :=
  match path.getLast? with
  | none => none
  | some key => descend .dotted (addEntry (path.length == 1) key.text v) path.dropLast into

def ofPairs (mark : Nat) (pairs : List (List Key × Value)) : Option Value :=
  pairs.foldlM (fun t p => insert p.1 p.2 t) (table mark .braces [])

/--
Open the table of a header. One that only the headers below it implied becomes complete, and moves
behind the other entries.
-/
def openTable (mark : Nat) (key : String) : Value → Option Value
  | table m origin entries =>
    match entries.lookup key with
    | none => some (table m origin (entries ++ [(key, table mark .header [])]))
    | some (table _ .implied es) =>
      some (table m origin (Entries.remove entries key ++ [(key, table mark .header es)]))
    | some _ => none
  | _ => none

/-- Open one more table under a doubled header. -/
def openTables (mark : Nat) (key : String) : Value → Option Value
  | table m origin entries =>
    match entries.lookup key with
    | none => some (table m origin (entries ++ [(key, tables mark [table mark .header []])]))
    | some (tables first items) =>
      some (table m origin
        (Entries.replace entries key (tables first (items ++ [table mark .header []]))))
    | some _ => none
  | _ => none

end Value
end DocLaunch.Toml
