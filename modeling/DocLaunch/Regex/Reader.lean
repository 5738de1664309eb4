import DocLaunch.Regex.Basic

namespace DocLaunch.Regex

/--
In basic expressions brackets and bars need a backslash to be special, in extended ones to be plain.
Rich expressions are extended ones with groups that do not count and with modest repetition.
-/
inductive Dialect where
  | basic
  | extended
  | rich
  deriving DecidableEq, Repr

def digitRanges : List (Char × Char) := [('0', '9')]
def wordRanges : List (Char × Char) := [('0', '9'), ('A', 'Z'), ('_', '_'), ('a', 'z')]
def blankRanges : List (Char × Char) := [('\t', '\r'), (' ', ' ')]

def classRanges? : String → Option (List (Char × Char))
  | "alpha" => some [('A', 'Z'), ('a', 'z')]
  | "digit" => some digitRanges
  | "alnum" => some [('0', '9'), ('A', 'Z'), ('a', 'z')]
  | "upper" => some [('A', 'Z')]
  | "lower" => some [('a', 'z')]
  | "space" => some blankRanges
  | "blank" => some [('\t', '\t'), (' ', ' ')]
  | "punct" => some [('!', '/'), (':', '@'), ('[', '\x60'), ('\x7b', '~')]
  | "print" => some [(' ', '~')]
  | "graph" => some [('!', '~')]
  | "cntrl" => some [('\x00', '\x1f'), ('\x7f', '\x7f')]
  | "xdigit" => some [('0', '9'), ('A', 'F'), ('a', 'f')]
  | _ => none

/-- The text before `mark` and a closing bracket, and what follows them. -/
def upToMark (mark : Char) : List Char → Option (List Char × List Char)
  | a :: ']' :: rest =>
    if a = mark then some ([], rest)
    else (upToMark mark (']' :: rest)).map fun (s, rest) => (a :: s, rest)
  | a :: rest => (upToMark mark rest).map fun (s, rest) => (a :: s, rest)
  | [] => none

/-- What a letter behind a backslash stands for between brackets of a rich expression. -/
def escapedRanges (c : Char) : List (Char × Char) :=
  match c with
  | 'd' => digitRanges
  | 'w' => wordRanges
  | 's' => blankRanges
  | 'n' => [('\n', '\n')]
  | 't' => [('\t', '\t')]
  | c => [(c, c)]

/-- One end of a range: a character, or the one that `[.` and `.]` enclose. -/
def readEnd : List Char → Option (Char × List Char)
  | '[' :: '.' :: rest => do
    match ← upToMark '.' rest with
    | ([c], rest) => some (c, rest)
    | _ => none
  | c :: rest => some (c, rest)
  | [] => none

/-- The ranges of a set up to its closing bracket, which is plain at the start. -/
def readRanges (d : Dialect) : Nat → Bool → List Char → Option (List (Char × Char) × List Char)
  | 0, _, _ => none
  | n + 1, atStart, cs => do
    let onward (here : List (Char × Char)) (rest : List Char) := do
      let (more, rest) ← readRanges d n false rest
      some (here ++ more, rest)
    match cs with
    | [] => none
    | '[' :: ':' :: rest =>
      let (name, rest) ← upToMark ':' rest
      onward (← classRanges? (String.ofList name)) rest
    | '[' :: '=' :: rest =>
      match ← upToMark '=' rest with
      | ([c], rest) => onward [(c, c)] rest
      | _ => none
    | c :: rest =>
      if c = ']' && !atStart then some ([], rest)
      else if c = '\\' && d = .rich then
        match rest with
        | e :: rest => onward (escapedRanges e) rest
        | [] => none
      else
        let (low, rest) ← readEnd cs
        match rest with
        | '-' :: ']' :: _ => onward [(low, low)] rest
        | '-' :: rest =>
          let (high, rest) ← readEnd rest
          if high < low then none else onward [(low, high)] rest
        | _ => onward [(low, low)] rest

def readSet (d : Dialect) (cs : List Char) : Option (Regex × List Char) := do
  let (negated, cs) := match cs with
    | '^' :: rest => (true, rest)
    | _ => (false, cs)
  let (ranges, rest) ← readRanges d (cs.length + 1) true cs
  some (.set ⟨negated, ranges⟩, rest)

/-- A character class that a letter behind a backslash stands for. -/
def classEscape? (c : Char) : Option Regex :=
  match c with
  | 'w' => some (.set ⟨false, wordRanges⟩)
  | 'W' => some (.set ⟨true, wordRanges⟩)
  | 's' => some (.set ⟨false, blankRanges⟩)
  | 'S' => some (.set ⟨true, blankRanges⟩)
  | 'n' => some (.char '\n')
  | 't' => some (.char '\t')
  | _ => none

/-- A position that a character behind a backslash stands for. -/
def edgeEscape? (c : Char) : Option Regex :=
  match c with
  | 'b' => some (.edge false)
  | 'B' => some (.edge true)
  | '<' => some .wordStart
  | '>' => some .wordEnd
  | '\x60' => some .lineStart
  | '\'' => some .lineEnd
  | _ => none

/-- What a character behind a backslash stands for in a rich expression, which knows no words. -/
def richEscape? (c : Char) : Option Regex :=
  match c with
  | 'd' => some (.set ⟨false, digitRanges⟩)
  | 'D' => some (.set ⟨true, digitRanges⟩)
  | 'r' => some (.char '\r')
  | 'A' => some .lineStart
  | 'z' => some .lineEnd
  | _ =>
    let isPlain := c < '\x80' && !c.isAlphanum && c != '<' && c != '>'
    (classEscape? c).orElse fun _ => if isPlain then some (.char c) else none

/-- What a character behind a backslash stands for. -/
def escape? (d : Dialect) (c : Char) : Option Regex :=
  if d = .rich then richEscape? c
  else if c.isDigit && c != '0' then some (.again (c.toNat - '0'.toNat))
  else ((classEscape? c).or (edgeEscape? c)).or (some (.char c))

def readNat (cs : List Char) : Option Nat × List Char :=
  let digits := cs.takeWhile Char.isDigit
  ((String.ofList digits).toNat?, cs.drop digits.length)

/-- The bounds of a repetition behind the opening brace. -/
def readBounds (d : Dialect) (cs : List Char) : Option (Nat × Option Nat × List Char) := do
  let (least, cs) := readNat cs
  let (most, cs) ← match cs with
    | ',' :: cs =>
      if least.isNone && d = .rich then none else some (readNat cs)
    | _ => least.map fun n => (some n, cs)
  let least := least.getD 0
  if most.any (· < least) then none
  else
    match d, cs with
    | .basic, '\\' :: '\x7d' :: rest => some (least, most, rest)
    | .basic, _ => none
    | _, '\x7d' :: rest => some (least, most, rest)
    | _, _ => none

/-- The sign of a repetition: its bounds. -/
def readSign (d : Dialect) (cs : List Char) : Option (Nat × Option Nat × List Char) :=
  match d, cs with
  | _, '*' :: rest => some (0, none, rest)
  | .basic, '\\' :: '+' :: rest => some (1, none, rest)
  | .basic, '\\' :: '?' :: rest => some (0, some 1, rest)
  | .basic, '\\' :: '\x7b' :: rest => readBounds d rest
  | .basic, _ => none
  | _, '+' :: rest => some (1, none, rest)
  | _, '?' :: rest => some (0, some 1, rest)
  | _, '\x7b' :: rest => readBounds d rest
  | _, _ => none

/-- The signs of repetition behind an expression. -/
def readSigns (d : Dialect) : Nat → Regex → List Char → Regex × List Char
  | 0, r, cs => (r, cs)
  | n + 1, r, cs =>
    match readSign d cs with
    | none => (r, cs)
    | some (least, most, rest) =>
      match d, rest with
      | .rich, '?' :: rest => readSigns d n (.repeated r least most false) rest
      | _, _ => readSigns d n (.repeated r least most true) rest

/-- What follows a bar, and what follows the bracket that closes a group. -/
def afterBar? : Dialect → List Char → Option (List Char)
  | .basic, '\\' :: '|' :: rest => some rest
  | .basic, _ => none
  | _, '|' :: rest => some rest
  | _, _ => none

def afterClose? : Dialect → List Char → Option (List Char)
  | .basic, '\\' :: ')' :: rest => some rest
  | .basic, _ => none
  | _, ')' :: rest => some rest
  | _, _ => none

/-- What follows the bracket that opens a group, and whether the group counts. -/
def afterOpen? : Dialect → List Char → Option (Bool × List Char)
  | .basic, '\\' :: '(' :: rest => some (true, rest)
  | .basic, _ => none
  | .rich, '(' :: '?' :: ':' :: rest => some (false, rest)
  | _, '(' :: rest => some (true, rest)
  | _, _ => none

/-- Whether an alternative ends here. -/
def isEnd (d : Dialect) (depth : Nat) (cs : List Char) : Bool :=
  cs.isEmpty || (afterBar? d cs).isSome || (0 < depth && (afterClose? d cs).isSome)

/-- A single expression without signs of repetition; groups are left to `group`. -/
def readSingle (d : Dialect) (depth : Nat) (atStart : Bool) (cs : List Char) :
    Option (Regex × List Char) :=
  match cs with
  | [] => none
  | '\\' :: c :: rest => (escape? d c).map fun r => (r, rest)
  | ['\\'] => none
  | '[' :: rest => readSet d rest
  | '.' :: rest => some (if d = .rich then .any else .set ⟨true, []⟩, rest)
  | '^' :: rest => some (if d != .basic || atStart then .lineStart else .char '^', rest)
  | '$' :: rest =>
    some (if d != .basic || isEnd d depth rest then .lineEnd else .char '$', rest)
  | c :: rest =>
    if d = .rich && (readSign d cs).isSome then none
    else if d = .rich && (c = ')' || c = '\x7b') then none
    else some (.char c, rest)

/-- An expression with its alternatives, and the number of its groups so far. -/
def readAll (d : Dialect) :
    Nat → (depth groups : Nat) → Regex → (atStart : Bool) → List Char →
      Option (Regex × Nat × List Char)
  | 0, _, _, _, _, _ => none
  | n + 1, depth, groups, before, atStart, cs => do
    if let some rest := afterBar? d cs then
      let (after, groups, rest) ← readAll d n depth groups .empty true rest
      return (.either before after, groups, rest)
    if cs.isEmpty || (0 < depth && (afterClose? d cs).isSome) then
      return (before, groups, cs)
    let (r, groups, rest) ← match afterOpen? d cs with
      | some (counts, rest) => do
        let number := groups + 1
        let (r, groups, rest) ←
          readAll d n (depth + 1) (if counts then number else groups) .empty true rest
        some (if counts then .group number r else r, groups, ← afterClose? d rest)
      | none => (readSingle d depth atStart cs).map fun (r, rest) => (r, groups, rest)
    let stillStart := d = .basic && r = .lineStart
    let (r, rest) := if stillStart then (r, rest) else readSigns d (rest.length + 1) r rest
    readAll d n depth groups (if before = .empty then r else .sequence before r) stillStart rest

def ofText? (d : Dialect) (text : List Char) : Option Regex := do
  let (r, _, rest) ← readAll d (2 * text.length + 2) 0 0 .empty true text
  if rest.isEmpty then some r else none

end DocLaunch.Regex
