import DocLaunch.Shell.Script

namespace DocLaunch.Shell

/-- Text in the script that is to be read at the end of the line. -/
structure PendingText where
  number : Nat
  delimiter : List Char
  /-- Whether the text is taken as it is. -/
  literal : Bool
  stripTabs : Bool

inductive Token where
  /-- A word, and whether a part of it is quoted. -/
  | word (w : Word) (quoted : Bool)
  /-- A redirection with the number before it. -/
  | redirect (fd : Option Nat) (sign : String)
  | operator (sign : String)
  | lineEnd
  | fileEnd
  deriving Inhabited

structure Source where
  rest : List Char
  line : Nat := 1
  /-- A token that was put back. -/
  ahead : Option Token := none
  pending : List PendingText := []
  /-- Texts that have been read, by their numbers. -/
  documents : List (Nat × Word) := []
  nextDocument : Nat := 0
  aliases : List (String × List Char) := []
  /-- Names that have been replaced, each with what was left of the text behind it. -/
  replaced : List (String × Nat) := []
  /-- What is left behind an alias that ends in a blank: the word behind it may be one as well. -/
  chained? : Option Nat := none

/-- Reading either goes on or ends with a complaint. -/
abbrev Reading := ExceptT String (StateM Source)

namespace Source

/-- A backslash at the end of a line joins it to the next. -/
def join : List Char → Nat → List Char × Nat
  | '\\' :: '\n' :: rest, line => join rest (line + 1)
  | cs, line => (cs, line)

def peek? : Reading (Option Char) := do
  let s ← get
  let (rest, line) := join s.rest s.line
  set { s with rest, line }
  return rest.head?

def skip (n : Nat) : Reading Unit :=
  modify fun s => { s with rest := s.rest.drop n }

def takeRaw? : Reading (Option Char) := do
  let s ← get
  match s.rest with
  | [] => return none
  | c :: rest =>
    set { s with rest, line := if c = '\n' then s.line + 1 else s.line }
    return some c

def accept (c : Char) : Reading Bool := do
  if (← peek?) = some c then
    skip 1
    return true
  else return false

/-- Take characters as long as they are right, lines joined, behind those that were taken before. -/
def takeOnto (right : Char → Bool) : Nat → List Char → Reading (List Char)
  | 0, done => return done.reverse
  | n + 1, done => do
    match ← peek? with
    | some c =>
      if right c then
        skip 1
        takeOnto right n (c :: done)
      else return done.reverse
    | none => return done.reverse

def takeWhile (right : Char → Bool) (n : Nat) : Reading (List Char) :=
  takeOnto right n []

/-- Put the text of an alias in for its name, but not within that text again. -/
def replaceAlias (w : Word) (quoted : Bool) : Reading Bool := do
  let s ← get
  if quoted || s.aliases.isEmpty then return false
  let size := s.rest.length
  let replaced := s.replaced.filter fun e => e.2 ≤ size
  match w.plain? with
  | none => return false
  | some name =>
    match s.aliases.lookup name with
    | none => return false
    | some text =>
      if replaced.any (·.1 == name) then return false
      let chains := text.getLast?.any fun c => c == ' ' || c == '\t'
      set { s with
        rest := text ++ s.rest, replaced := (name, size) :: replaced
        chained? := if chains then some size else none }
      return true

/-- The same for an argument, if it is the word behind an alias that ends in a blank. -/
def replaceChained (w : Word) (quoted : Bool) : Reading Bool := do
  let s ← get
  match s.chained? with
  | none => return false
  | some size =>
    if size ≤ s.rest.length then return false
    set { s with chained? := none }
    replaceAlias w quoted

end Source

/-- A word in the making, the last piece first; text of one kind is put together. -/
def addText (quoted : Bool) (cs : List Char) (done : Word) : Word :=
  match done with
  | .text q before :: rest =>
    if q = quoted then .text q (before ++ cs) :: rest else .text quoted cs :: done
  | _ => .text quoted cs :: done

def Token.name : Token → String
  | word .. => "word"
  | redirect .. => "redirection"
  | operator sign => "\"" ++ sign ++ "\""
  | lineEnd => "newline"
  | fileEnd => "end of file"

def keywords : List String :=
  ["!", "case", "do", "done", "elif", "else", "esac", "fi", "for", "if", "in", "then", "until",
   "while", "\x7b", "\x7d"]

def Token.keyword? : Token → Option String
  | word w false => w.plain?.filter keywords.contains
  | _ => none

def Token.describe (t : Token) : String :=
  match t.keyword? with
  | some k => "\"" ++ k ++ "\""
  | none => t.name

def unexpected {α : Type} (t : Token) (wanted : Option String := none) : Reading α :=
  throw ("Syntax error: " ++ t.describe ++ " unexpected" ++
    match wanted with
    | none => ""
    | some w => " (expecting \"" ++ w ++ "\")")

/--
Lines up to the delimiter, and what follows it. A line that is joined to the one before it is taken
whatever it holds.
-/
def takeDocument (d : PendingText) : Nat → Bool → List Char → List Char × List Char
  | 0, _, text => ([], text)
  | n + 1, joined, text =>
    if text.isEmpty then ([], [])
    else
      let text := if d.stripTabs && !joined then text.dropWhile (· == '\t') else text
      let line := text.takeWhile (· != '\n')
      let rest := text.drop (line.length + 1)
      if line = d.delimiter && !joined then ([], rest)
      else
        let ended := line.length < text.length
        let joins := ended && !d.literal && (line.reverse.takeWhile (· == '\\')).length % 2 == 1
        let (more, rest) := takeDocument d n joins rest
        ((if joins then line.dropLast else if ended then line ++ ['\n'] else line) ++ more, rest)

end DocLaunch.Shell
