import DocLaunch.Text.Basic

namespace DocLaunch.Toml

open Text

def isGap (c : Char) : Bool :=
  c == ' ' || c == '\t'

def skipGap (cs : List Char) : List Char :=
  cs.dropWhile isGap

/-- A line ends with a line feed, before which a carriage return may stand. -/
def readNewline : List Char → Option (List Char)
  | '\n' :: rest => some rest
  | '\r' :: '\n' :: rest => some rest
  | _ => none

/-- Characters that stand for themselves: no controls but the tab. -/
def isPlain (c : Char) : Bool :=
  c == '\t' || (0x20 ≤ c.toNat && c.toNat != 0x7F)

/-- A character given by exactly `n` hexadecimal digits. -/
def readCodePoint (n : Nat) (cs : List Char) : Option (Char × List Char) := do
  let (code, rest) ← readFixed 16 n cs
  if code.isValidChar then some (Char.ofNat code, rest) else none

def readEscape : List Char → Option (Char × List Char)
  | 'b' :: rest => some ('\x08', rest)
  | 't' :: rest => some ('\t', rest)
  | 'n' :: rest => some ('\n', rest)
  | 'f' :: rest => some ('\x0c', rest)
  | 'r' :: rest => some ('\r', rest)
  | '"' :: rest => some ('"', rest)
  | '\\' :: rest => some ('\\', rest)
  | 'u' :: rest => readCodePoint 4 rest
  | 'U' :: rest => readCodePoint 8 rest
  | _ => none

def skipLines : Nat → List Char → List Char
  | 0, cs => cs
  | n + 1, cs =>
    match readNewline cs with
    | some rest => skipLines n rest
    | none =>
      match cs with
      | c :: rest => if isGap c then skipLines n rest else cs
      | [] => []

/-- A backslash at the end of a line joins the line to the next text. -/
def readJoin (cs : List Char) : Option (List Char) :=
  (readNewline (skipGap cs)).map fun rest => skipLines rest.length rest

/-- The end of a string over several lines; up to two quotes may stand before the closing three. -/
def readTripleEnd (quote : Char) : List Char → Option (List Char × List Char)
  | a :: b :: c :: d :: e :: rest =>
    if a = quote ∧ b = quote ∧ c = quote then
      if d = quote then
        if e = quote then some ([quote, quote], rest) else some ([quote], e :: rest)
      else some ([], d :: e :: rest)
    else none
  | [a, b, c, d] =>
    if a = quote ∧ b = quote ∧ c = quote then
      if d = quote then some ([quote], []) else some ([], [d])
    else none
  | [a, b, c] => if a = quote ∧ b = quote ∧ c = quote then some ([], []) else none
  | _ => none

def consRead (c : Char) : Option (List Char × List Char) → Option (List Char × List Char)
  | some (text, rest) => some (c :: text, rest)
  | none => none

/-- Text up to the closing double quote, on one line. -/
def readBasic : Nat → List Char → Option (List Char × List Char)
  | 0, _ => none
  | n + 1, cs =>
    match cs with
    | [] => none
    | '"' :: rest => some ([], rest)
    | '\\' :: rest =>
      match readEscape rest with
      | some (c, rest) => consRead c (readBasic n rest)
      | none => none
    | c :: rest => if isPlain c then consRead c (readBasic n rest) else none

/-- Text up to three double quotes. -/
def readBasicLines : Nat → List Char → Option (List Char × List Char)
  | 0, _ => none
  | n + 1, cs =>
    match readTripleEnd '"' cs with
    | some (quotes, rest) => some (quotes, rest)
    | none =>
      match readNewline cs with
      | some rest => consRead '\n' (readBasicLines n rest)
      | none =>
        match cs with
        | [] => none
        | '\\' :: rest =>
          match readJoin rest with
          | some rest => readBasicLines n rest
          | none =>
            match readEscape rest with
            | some (c, rest) => consRead c (readBasicLines n rest)
            | none => none
        | c :: rest => if isPlain c then consRead c (readBasicLines n rest) else none

/-- Text up to the closing single quote, on one line, taken as it stands. -/
def readLiteral : List Char → Option (List Char × List Char)
  | [] => none
  | '\'' :: rest => some ([], rest)
  | c :: rest => if isPlain c then consRead c (readLiteral rest) else none

/-- Text up to three single quotes, taken as it stands but for carriage returns at line ends. -/
def readLiteralLines : Nat → List Char → Option (List Char × List Char)
  | 0, _ => none
  | n + 1, cs =>
    match readTripleEnd '\'' cs with
    | some (quotes, rest) => some (quotes, rest)
    | none =>
      match readNewline cs with
      | some rest => consRead '\n' (readLiteralLines n rest)
      | none =>
        match cs with
        | [] => none
        | c :: rest => if isPlain c then consRead c (readLiteralLines n rest) else none

/-- A line end right after three opening quotes is no part of the text. -/
def skipFirstNewline (cs : List Char) : List Char :=
  (readNewline cs).getD cs

def readString : List Char → Option (List Char × List Char)
  | '"' :: '"' :: '"' :: rest =>
    let rest := skipFirstNewline rest
    readBasicLines rest.length rest
  | '\'' :: '\'' :: '\'' :: rest =>
    let rest := skipFirstNewline rest
    readLiteralLines rest.length rest
  | '"' :: rest => readBasic rest.length rest
  | '\'' :: rest => readLiteral rest
  | _ => none

/-- Characters of a key without quotes. -/
def isBare (c : Char) : Bool :=
  c.isAlphanum || c == '_' || c == '-'

/-- One part of a key: bare, or a string on one line. -/
def readKeyPart : List Char → Option (List Char × List Char)
  | '"' :: rest => readBasic rest.length rest
  | '\'' :: rest => readLiteral rest
  | cs =>
    let part := cs.takeWhile isBare
    if part.isEmpty then none else some (part, cs.dropWhile isBare)

end DocLaunch.Toml
