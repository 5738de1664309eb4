import DocLaunch.Json.Basic

namespace DocLaunch.Json

open Text

def isSpace (c : Char) : Bool :=
  c == ' ' || c == '\t' || c == '\n' || c == '\r'

def skipSpace (cs : List Char) : List Char :=
  cs.dropWhile isSpace

/-- Four digits of a code unit; the first of a surrogate pair asks for the second. -/
def readUnits (cs : List Char) : Option (Char × List Char) := do
  let (high, rest) ← readFixed 16 4 cs
  if high.isValidChar then some (Char.ofNat high, rest)
  else if 0xD800 ≤ high ∧ high < 0xDC00 then
    match rest with
    | '\\' :: 'u' :: rest => do
      let (low, rest) ← readFixed 16 4 rest
      if 0xDC00 ≤ low ∧ low < 0xE000 then
        some (Char.ofNat (0x10000 + (high - 0xD800) * 0x400 + (low - 0xDC00)), rest)
      else none
    | _ => none
  else none

def readEscape : List Char → Option (Char × List Char)
  | '"' :: rest => some ('"', rest)
  | '\\' :: rest => some ('\\', rest)
  | '/' :: rest => some ('/', rest)
  | 'b' :: rest => some ('\x08', rest)
  | 'f' :: rest => some ('\x0c', rest)
  | 'n' :: rest => some ('\n', rest)
  | 'r' :: rest => some ('\r', rest)
  | 't' :: rest => some ('\t', rest)
  | 'u' :: rest => readUnits rest
  | _ => none

def consRead (c : Char) : Option (List Char × List Char) → Option (List Char × List Char)
  | some (text, rest) => some (c :: text, rest)
  | none => none

def readText : Nat → List Char → Option (List Char × List Char)
  | 0, _ => none
  | n + 1, cs =>
    match cs with
    | [] => none
    | '"' :: rest => some ([], rest)
    | '\\' :: rest =>
      match readEscape rest with
      | some (c, rest) => consRead c (readText n rest)
      | none => none
    | c :: rest => if c.toNat < 0x20 then none else consRead c (readText n rest)

def readString : List Char → Option (String × List Char)
  | '"' :: rest => (readText rest.length rest).map fun (s, rest) => (String.ofList s, rest)
  | _ => none

def readDigits (cs : List Char) : Option (List Char × List Char) :=
  let digits := cs.takeWhile Char.isDigit
  if digits.isEmpty then none else some (digits, cs.dropWhile Char.isDigit)

def readWhole : List Char → Option (List Char × List Char)
  | '0' :: rest => some (['0'], rest)
  | cs => readDigits cs

def readFraction : List Char → Option (List Char × List Char)
  | '.' :: rest => readDigits rest
  | cs => some ([], cs)

def readExponent : List Char → Option (Int × List Char)
  | c :: rest =>
    if c = 'e' ∨ c = 'E' then
      let (negative, rest) := match rest with
        | '-' :: rest => (true, rest)
        | '+' :: rest => (false, rest)
        | rest => (false, rest)
      (readDigits rest).map fun (digits, rest) =>
        (if negative then -(valueOf 10 digits : Int) else valueOf 10 digits, rest)
    else some (0, c :: rest)
  | [] => some (0, [])

def readNumber (cs : List Char) : Option (Json × List Char) := do
  let (negative, cs) := match cs with
    | '-' :: rest => (true, rest)
    | cs => (false, cs)
  let (whole, cs) ← readWhole cs
  let (fraction, cs) ← readFraction cs
  let (exponent, rest) ← readExponent cs
  let n : Int := valueOf 10 (whole ++ fraction)
  some (number (if negative then -n else n) (exponent - fraction.length), rest)

/-- The items of an array, at least one, and the closing bracket. -/
def readItems (item : List Char → Option (Json × List Char)) :
    Nat → List Char → Option (List Json × List Char)
  | 0, _ => none
  | n + 1, cs => do
    let (v, rest) ← item (skipSpace cs)
    match skipSpace rest with
    | ',' :: rest =>
      let (vs, rest) ← readItems item n rest
      some (v :: vs, rest)
    | ']' :: rest => some ([v], rest)
    | _ => none

/-- The fields of an object, at least one, and the closing brace. -/
def readFields (item : List Char → Option (Json × List Char)) :
    Nat → List Char → Option (List (String × Json) × List Char)
  | 0, _ => none
  | n + 1, cs => do
    let (k, rest) ← readString (skipSpace cs)
    match skipSpace rest with
    | ':' :: rest =>
      let (v, rest) ← item (skipSpace rest)
      match skipSpace rest with
      | ',' :: rest =>
        let (fields, rest) ← readFields item n rest
        some ((k, v) :: fields, rest)
      | '}' :: rest => some ([(k, v)], rest)
      | _ => none
    | _ => none

/-- A value that nests to depth `n` at most. -/
def readValue : Nat → List Char → Option (Json × List Char)
  | 0, _ => none
  | n + 1, cs =>
    match cs with
    | 'n' :: 'u' :: 'l' :: 'l' :: rest => some (null, rest)
    | 't' :: 'r' :: 'u' :: 'e' :: rest => some (boolean true, rest)
    | 'f' :: 'a' :: 'l' :: 's' :: 'e' :: rest => some (boolean false, rest)
    | '"' :: _ => (readString cs).map fun (s, rest) => (string s, rest)
    | '[' :: rest =>
      match skipSpace rest with
      | ']' :: rest => some (array [], rest)
      | rest => (readItems (readValue n) rest.length rest).map fun (vs, rest) => (array vs, rest)
    | '{' :: rest =>
      match skipSpace rest with
      | '}' :: rest => some (object [], rest)
      | rest =>
        (readFields (readValue n) rest.length rest).map fun (fields, rest) => (object fields, rest)
    | _ => readNumber cs

def ofText? (cs : List Char) : Option Json :=
  match readValue cs.length (skipSpace cs) with
  | some (v, rest) => if (skipSpace rest).isEmpty then some v else none
  | none => none

end DocLaunch.Json
