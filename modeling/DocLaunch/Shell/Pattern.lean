import DocLaunch.FileSystem.Access
import DocLaunch.Machine.Bytes

namespace DocLaunch.Shell

open Machine (Bytes)

/-- A character of a pattern; one that is quoted stands for itself. -/
structure Mark where
  char : Char
  quoted : Bool
  deriving DecidableEq, Repr

abbrev Pattern := List Mark

namespace Pattern

def ofChars (quoted : Bool) (cs : List Char) : Pattern :=
  cs.map (⟨·, quoted⟩)

def text (p : Pattern) : List Char := p.map Mark.char

def isSign (c : Char) (m : Mark) : Bool := !m.quoted && m.char == c

/-- The characters of a named class. -/
def classHolds? (name : String) (c : Char) : Option Bool :=
  match name with
  | "alpha" => some c.isAlpha
  | "digit" => some c.isDigit
  | "alnum" => some c.isAlphanum
  | "upper" => some c.isUpper
  | "lower" => some c.isLower
  | "space" => some (c == ' ' || ('\t' ≤ c && c ≤ '\r'))
  | "blank" => some (c == ' ' || c == '\t')
  | "punct" => some ('!' ≤ c && c ≤ '~' && !c.isAlphanum)
  | "print" => some (' ' ≤ c && c ≤ '~')
  | "graph" => some ('!' ≤ c && c ≤ '~')
  | "cntrl" => some (c < ' ' || c == '\x7f')
  | "xdigit" => some (c.isDigit || ('a' ≤ c && c ≤ 'f') || ('A' ≤ c && c ≤ 'F'))
  | _ => none

/-- A named class behind its opening bracket and colon, and what follows it. -/
def readClass (c : Char) (p : Pattern) : Option (Bool × Pattern) := do
  let name := p.takeWhile fun m => m.char.isAlpha
  match p.drop name.length with
  | a :: b :: rest =>
    if a.char = ':' ∧ b.char = ']' then
      (classHolds? (String.ofList (text name)) c).map fun holds => (holds, rest)
    else none
  | _ => none

/-- A character that an unquoted backslash may stand before. -/
def unescaped : Pattern → Option (Char × Pattern)
  | [] => none
  | m :: rest =>
    match rest with
    | next :: rest' => if isSign '\\' m then some (next.char, rest') else some (m.char, rest)
    | [] => some (m.char, [])

/--
Whether a character is in a set, up to the closing bracket, which may come first; and what follows.
A set that is not closed is none.
-/
def readSet (c : Char) : Nat → Bool → Bool → Pattern → Option (Bool × Pattern)
  | 0, _, _, _ => none
  | n + 1, atStart, found, p =>
    match p with
    | [] => none
    | m :: rest =>
      if isSign ']' m && !atStart then some (found, rest)
      else
        let named := match rest with
          | colon :: rest => if isSign '[' m && colon.char == ':' then readClass c rest else none
          | [] => none
        match named with
        | some (holds, rest) => readSet c n false (found || holds) rest
        | none =>
          match unescaped p with
          | none => none
          | some (low, rest) =>
            match rest with
            | dash :: next :: rest' =>
              if isSign '-' dash && !isSign ']' next then
                match unescaped (next :: rest') with
                | some (high, rest) => readSet c n false (found || (low ≤ c && c ≤ high)) rest
                | none => none
              else readSet c n false (found || low == c) rest
            | _ => readSet c n false (found || low == c) rest

/-- A set behind its opening bracket; an exclamation mark turns it around. -/
def readWholeSet (c : Char) (p : Pattern) : Option (Bool × Pattern) :=
  match p with
  | m :: rest =>
    if isSign '!' m then (readSet c p.length true false rest).map fun (b, rest) => (!b, rest)
    else readSet c (p.length + 1) true false p
  | [] => none

/-- Whether a pattern fits a whole text. -/
def fitsWith : Nat → Pattern → List Char → Bool
  | 0, _, _ => false
  | n + 1, p, cs =>
    match p with
    | [] => cs.isEmpty
    | m :: rest =>
      if isSign '*' m then
        fitsWith n rest cs || (match cs with
          | [] => false
          | _ :: cs => fitsWith n p cs)
      else
        match cs with
        | [] => false
        | c :: cs =>
          let plain (m : Mark) (rest : Pattern) : Bool := m.char == c && fitsWith n rest cs
          if isSign '?' m then fitsWith n rest cs
          else if isSign '[' m then
            match readWholeSet c rest with
            | some (true, rest) => fitsWith n rest cs
            | some (false, _) => false
            | none => plain m rest
          else
            match rest with
            | next :: rest' => if isSign '\\' m then plain next rest' else plain m rest
            | [] => plain m rest

def fits (p : Pattern) (cs : List Char) : Bool :=
  fitsWith (p.length + cs.length + 1) p cs

def hasSigns (p : Pattern) : Bool :=
  p.any fun m => !m.quoted && (m.char == '*' || m.char == '?' || m.char == '[')

/-- The lengths from which a part of a text at one end is chosen: shorter ones first, or longer. -/
def lengths (long : Bool) (n : Nat) : List Nat :=
  if long then (List.range (n + 1)).reverse else List.range (n + 1)

/-- A text without the part at one end that a pattern fits. -/
def trim (p : Pattern) (atEnd long : Bool) (cs : List Char) : List Char :=
  if atEnd then
    match (lengths long cs.length).find? fun n => p.fits (cs.drop (cs.length - n)) with
    | some n => cs.take (cs.length - n)
    | none => cs
  else
    match (lengths long cs.length).find? fun n => p.fits (cs.take n) with
    | some n => cs.drop n
    | none => cs

/-- A pattern for the last name of a path in front of its slashes, and what follows. -/
def splitName (p : Pattern) : Pattern × Pattern :=
  (p.takeWhile (·.char != '/'), p.dropWhile (·.char != '/'))

/-- The names in a directory, also those of itself and of its parent. -/
def namesIn (fs : FileSystem) (cwd : Place) (dir : Bytes) : List Bytes :=
  match fs.status cwd (if dir.isEmpty then "." else Bytes.toText dir) with
  | .ok (place, .directory) =>
    "." :: ".." :: (fs.below place).filterMap fun e =>
      match e.1 with
      | name :: above => if above = place then some (Bytes.ofText name) else none
      | [] => none
  | _ => []

/-- A name that begins with a dot has to be asked for. -/
def mayName (p : Pattern) (name : Bytes) : Bool :=
  name.toList.head? != some '.' || (p.head?.any fun m => m.char == '.')

/-- The paths that a pattern fits, behind a directory that is already named. -/
def pathsIn (fs : FileSystem) (cwd : Place) : Nat → Bytes → Pattern → List Bytes
  | 0, _, _ => []
  | n + 1, dir, p =>
    let (name, rest) := splitName p
    let slashes := text (rest.takeWhile (·.char == '/'))
    let rest := rest.drop slashes.length
    let onward (name : Bytes) : List Bytes :=
      let path := dir ++ name ++ String.ofList slashes
      if slashes.isEmpty then [path]
      else pathsIn fs cwd n path rest
    if !hasSigns name then
      let path := dir ++ String.ofList (text name)
      if rest.isEmpty then
        let whole := path ++ String.ofList slashes
        if (fs.find .keep cwd (Bytes.toText whole)).toOption.any (·.node?.isSome) then [whole]
        else []
      else onward (String.ofList (text name))
    else
      let found := (namesIn fs cwd dir).filter fun f => mayName name f && fits name f.toList
      let found := if slashes.isEmpty then found
        else found.filter fun f => fs.isDirectory cwd (Bytes.toText (dir ++ f))
      found.flatMap fun f =>
        if rest.isEmpty then [dir ++ f ++ String.ofList slashes] else onward f

def paths (fs : FileSystem) (cwd : Place) (p : Pattern) : List Bytes :=
  let slashes := text (p.takeWhile (·.char == '/'))
  (pathsIn fs cwd (p.length + 1) (String.ofList slashes) (p.drop slashes.length)).mergeSort
    fun a b => a ≤ b

end Pattern
end DocLaunch.Shell
