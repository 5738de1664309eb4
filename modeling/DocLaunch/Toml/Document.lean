import DocLaunch.Toml.Numeral
import DocLaunch.Toml.Text
import DocLaunch.Toml.Value

namespace DocLaunch.Toml

inductive Statement where
  | header (mark : Nat) (path : List Key)
  | doubleHeader (mark : Nat) (path : List Key)
  | assign (path : List Key) (value : Value)
  deriving Repr

/-- Arrays and tables in braces nest to this depth at most, and a key has at most as many parts. -/
def maxDepth : Nat := 79

/-- The parts of a dotted key, at most `n`, with the blank space around them. -/
def readKey : Nat → List Char → Option (List Key × List Char)
  | 0, _ => none
  | n + 1, cs => do
    let cs := skipGap cs
    let (part, rest) ← readKeyPart cs
    let key : Key := ⟨String.ofList part, cs.length⟩
    match skipGap rest with
    | '.' :: rest =>
      let (keys, rest) ← readKey n rest
      some (key :: keys, rest)
    | rest => some ([key], rest)

/-- Blank space, line ends and comments between the items of an array. -/
def skipFiller : Nat → List Char → List Char
  | 0, cs => cs
  | n + 1, cs =>
    match readNewline cs with
    | some rest => skipFiller n rest
    | none =>
      match cs with
      | '#' :: rest => skipFiller n (rest.dropWhile isPlain)
      | c :: rest => if isGap c then skipFiller n rest else cs
      | [] => []

/-- The items of an array and its closing bracket; a comma may follow the last item. -/
def readItems (item : List Char → Option (Value × List Char)) :
    Nat → List Char → Option (List Value × List Char)
  | 0, _ => none
  | n + 1, cs =>
    match skipFiller cs.length cs with
    | ']' :: rest => some ([], rest)
    | cs => do
      let (v, rest) ← item cs
      match skipFiller rest.length rest with
      | ',' :: rest =>
        let (vs, rest) ← readItems item n rest
        some (v :: vs, rest)
      | ']' :: rest => some ([v], rest)
      | _ => none

def readPair (item : List Char → Option (Value × List Char)) (cs : List Char) :
    Option ((List Key × Value) × List Char) := do
  let (path, rest) ← readKey maxDepth cs
  match rest with
  | '=' :: rest =>
    let (v, rest) ← item (skipGap rest)
    some ((path, v), rest)
  | _ => none

/-- The pairs of a table in braces, at least one, and the closing brace. -/
def readPairs (item : List Char → Option (Value × List Char)) :
    Nat → List Char → Option (List (List Key × Value) × List Char)
  | 0, _ => none
  | n + 1, cs => do
    let (pair, rest) ← readPair item cs
    match skipGap rest with
    | ',' :: rest =>
      let (pairs, rest) ← readPairs item n rest
      some (pair :: pairs, rest)
    | '}' :: rest => some ([pair], rest)
    | _ => none

/-- Dates, times, floating point numbers and integers, in this order. -/
def readNumber (cs : List Char) : Option (Scalar × List Char) :=
  match Moment.read cs with
  | some (m, rest) => some (.moment m, rest)
  | none =>
    match readDecimal cs with
    | some (x, rest) => some (.decimal x, rest)
    | none =>
      match readSpecial cs with
      | some (x, rest) => some (.decimal x, rest)
      | none => (readInteger cs).map fun (i, rest) => (.integer i, rest)

def readScalar : List Char → Option (Scalar × List Char)
  | 't' :: 'r' :: 'u' :: 'e' :: rest => some (.boolean true, rest)
  | 'f' :: 'a' :: 'l' :: 's' :: 'e' :: rest => some (.boolean false, rest)
  | cs =>
    match readString cs with
    | some (s, rest) => some (.text (String.ofList s), rest)
    | none => readNumber cs

/-- A value in which brackets and braces nest to depth `n` at most. -/
def readValue : Nat → List Char → Option (Value × List Char)
  | 0, cs => (readScalar cs).map fun (s, rest) => (.scalar cs.length s, rest)
  | n + 1, cs =>
    match cs with
    | '[' :: rest => do
      let (items, rest) ← readItems (readValue n) rest.length rest
      some (.array cs.length items, rest)
    | '{' :: rest =>
      match skipGap rest with
      | '}' :: rest => some (.table cs.length .braces [], rest)
      | rest => do
        let (pairs, rest) ← readPairs (readValue n) rest.length rest
        let t ← Value.ofPairs cs.length pairs
        some (t, rest)
    | _ => (readScalar cs).map fun (s, rest) => (.scalar cs.length s, rest)

def finishLine (cs : List Char) : Option (List Char) :=
  let cs := skipGap cs
  let cs := match cs with
    | '#' :: rest => rest.dropWhile isPlain
    | _ => cs
  match cs with
  | [] => some []
  | _ => readNewline cs

def readStatement (cs : List Char) : Option (Statement × List Char) :=
  match cs with
  | '[' :: '[' :: rest => do
    let (path, rest) ← readKey maxDepth rest
    match rest with
    | ']' :: ']' :: rest => some (.doubleHeader cs.length path, rest)
    | _ => none
  | '[' :: rest => do
    let (path, rest) ← readKey maxDepth rest
    match rest with
    | ']' :: rest => some (.header cs.length path, rest)
    | _ => none
  | _ => do
    let ((path, v), rest) ← readPair (readValue maxDepth) cs
    some (.assign path v, rest)

def readStatements : Nat → List Char → Option (List Statement)
  | 0, _ => none
  | n + 1, cs =>
    match cs with
    | [] => some []
    | _ =>
      match finishLine cs with
      | some rest => readStatements n rest
      | none => do
        let (s, rest) ← readStatement (skipGap cs)
        let rest ← finishLine rest
        let ss ← readStatements n rest
        some (s :: ss)

/-- A byte order mark at the start is no part of the document. -/
def skipByteOrderMark : List Char → List Char
  | '\ufeff' :: rest => rest
  | cs => cs

def Statement.readAll (cs : List Char) : Option (List Statement) :=
  let cs := skipByteOrderMark cs
  readStatements (cs.length + 1) cs

/-- The document so far and the header that assignments are under. -/
structure Draft where
  root : Value
  under : List Key

def Draft.start : Draft := ⟨Value.empty, []⟩

/-- Go to the table above the last key of a header and open something there. -/
def Draft.open (d : Draft) (make : String → Value → Option Value) (path : List Key) :
    Option Draft := do
  let key ← path.getLast?
  let root ← d.root.descend .implied (make key.text) path.dropLast
  some ⟨root, path⟩

def Draft.add (d : Draft) : Statement → Option Draft
  | .header mark path => d.open (Value.openTable mark) path
  | .doubleHeader mark path => d.open (Value.openTables mark) path
  | .assign path v => do
    let root ← d.root.descend .implied (Value.insert path v) d.under
    some { d with root }

def Value.ofStatements? (ss : List Statement) : Option Value :=
  (ss.foldlM Draft.add Draft.start).map Draft.root

def Value.ofText? (cs : List Char) : Option Value :=
  (Statement.readAll cs).bind Value.ofStatements?

/-- Line and column, from 1, of the character with the mark. -/
def position (cs : List Char) (mark : Nat) : Nat × Nat :=
  let before := cs.take (cs.length - mark)
  (before.count '\n' + 1, (before.reverse.takeWhile (· != '\n')).length + 1)

end DocLaunch.Toml
