import DocLaunch.Toml.Text

namespace DocLaunch.Toml

def isControl (c : Char) : Bool :=
  (c.toNat < 0x20 && c != '\t' && c != '\n') || c.toNat == 0x7F

def longestRun (q : Char) (cs : List Char) : Nat :=
  (cs.foldl (fun (longest, run) c =>
    if c = q then (max longest (run + 1), run + 1) else (longest, 0)) (0, 0)).1

/-- How a character other than a quote is written between double quotes. -/
def escapeChar (lines : Bool) (c : Char) : List Char :=
  match c with
  | '\x08' => ['\\', 'b']
  | '\t' => ['\\', 't']
  | '\x0c' => ['\\', 'f']
  | '\r' => ['\\', 'r']
  | '\\' => ['\\', '\\']
  | '\n' => if lines then ['\n'] else ['\\', 'n']
  | c =>
    if isControl c then
      ['\\', 'u', '0', '0', (Nat.digitChar (c.toNat / 16)).toUpper,
        (Nat.digitChar (c.toNat % 16)).toUpper]
    else [c]

/-- Text between double quotes: on one line no quote stands alone, over several no three do. -/
def escape (lines : Bool) : Nat → List Char → List Char
  | _, [] => []
  | run, '"' :: rest =>
    if lines && run < 2 then '"' :: escape lines (run + 1) rest
    else '\\' :: '"' :: escape lines 0 rest
  | _, c :: rest => escapeChar lines c ++ escape lines 0 rest

inductive Style where
  | basic
  | literal
  | basicLines
  | literalLines
  deriving DecidableEq, Repr

/-- The first style that needs no escapes but tabs; else one with escapes. -/
def Style.of (cs : List Char) : Style :=
  let control := cs.any isControl
  let newline := cs.contains '\n'
  let backslash := cs.contains '\\'
  if !control && !newline && !backslash && !cs.contains '"' then .basic
  else if !control && !newline && !cs.contains '\'' then .literal
  else if !control && !backslash && longestRun '"' cs ≤ 2 then .basicLines
  else if !control && longestRun '\'' cs ≤ 2 then .literalLines
  else if newline then .basicLines
  else .basic

/-- The first line of a text with several begins on a line of its own. -/
def opening (cs : List Char) : List Char :=
  if cs.contains '\n' then ['\n'] else []

def Style.write (style : Style) (cs : List Char) : List Char :=
  match style with
  | .basic => '"' :: (escape false 0 cs ++ ['"'])
  | .literal => '\'' :: (cs ++ ['\''])
  | .basicLines => ['"', '"', '"'] ++ opening cs ++ escape true 0 cs ++ ['"', '"', '"']
  | .literalLines => ['\'', '\'', '\''] ++ opening cs ++ cs ++ ['\'', '\'', '\'']

def writeString (cs : List Char) : List Char :=
  (Style.of cs).write cs

/-- A key is bare if it can be; else it is a string on one line. -/
def writeKey (cs : List Char) : List Char :=
  if !cs.isEmpty && cs.all isBare then cs
  else
    match Style.of cs with
    | .literal => Style.literal.write cs
    | _ => Style.basic.write cs

inductive Plain where
  | text (s : String)
  | boolean (b : Bool)
  | texts (ss : List String)
  deriving DecidableEq, Repr

/-- From two items on each has a line of its own. -/
def Plain.write : Plain → List Char
  | .text s => writeString s.toList
  | .boolean true => ['t', 'r', 'u', 'e']
  | .boolean false => ['f', 'a', 'l', 's', 'e']
  | .texts [] => ['[', ']']
  | .texts [s] => '[' :: (writeString s.toList ++ [']'])
  | .texts ss =>
    ['[', '\n'] ++
      ss.flatMap (fun s => [' ', ' ', ' ', ' '] ++ writeString s.toList ++ [',', '\n']) ++ [']']

/-- A header and what stands under it. -/
structure Section where
  path : List String
  entries : List (String × Plain)
  deriving DecidableEq, Repr

def writeHeader (path : List String) : List Char :=
  '[' :: (['.'].intercalate (path.map fun s => writeKey s.toList) ++ [']', '\n'])

def writeEntry (e : String × Plain) : List Char :=
  writeKey e.1.toList ++ [' ', '=', ' '] ++ e.2.write ++ ['\n']

def Section.write (s : Section) : List Char :=
  writeHeader s.path ++ s.entries.flatMap writeEntry

/-- Sections with an empty line before each but the first. -/
def writeSections (sections : List Section) : List Char :=
  ['\n'].intercalate (sections.map Section.write)

end DocLaunch.Toml
