namespace DocLaunch.Shell

/-- What a dollar sign stands before. -/
inductive Parameter where
  | named (name : String)
  | position (n : Nat)
  /-- All arguments, each by itself. -/
  | each
  /-- All arguments in one text. -/
  | joined
  | count
  | status
  | process
  | lastJob
  | flags
  deriving DecidableEq, Repr, Inhabited

inductive RedirectKind where
  | read
  | write
  | append
  /-- Write even if files are to be spared. -/
  | clobber
  | readWrite
  /-- Let the descriptor lead where another one does, or nowhere. -/
  | duplicate
  deriving DecidableEq, Repr, Inhabited

mutual

/-- A part of a word; what is quoted is neither split nor a pattern. -/
inductive Piece where
  | text (quoted : Bool) (s : List Char)
  | parameter (quoted : Bool) (p : Parameter) (form : Form)
  /-- The output of a script. -/
  | capture (quoted : Bool) (body : Script)
  | arithmetic (quoted : Bool) (body : List Piece)

/-- How the value of a parameter is used; `orEmpty` takes an empty value for none. -/
inductive Form where
  | plain
  | size
  | default (orEmpty : Bool) (word : List Piece)
  | assigned (orEmpty : Bool) (word : List Piece)
  | required (orEmpty : Bool) (word : List Piece)
  | instead (orEmpty : Bool) (word : List Piece)
  /-- Without what a pattern fits at one end. -/
  | trimmed (atEnd long : Bool) (pattern : List Piece)
  | wrong

inductive Redirect where
  | file (kind : RedirectKind) (fd : Nat) (target : List Piece)
  /-- Text that stands in the script, known by a number. -/
  | document (fd number : Nat)

inductive Script where
  | simple (line : Nat) (assignments words : List (List Piece)) (redirects : List Redirect)
  | pipeline (parts : List Script)
  | background (body : Script)
  | sequence (parts : List Script)
  | ifSo (first second : Script)
  | ifNot (first second : Script)
  | negated (body : Script)
  | branch (condition yes no : Script)
  | loop (stopOn : Bool) (condition body : Script)
  | each (line : Nat) (name : String) (words : List (List Piece)) (body : Script)
  | choose (line : Nat) (subject : List Piece) (cases : List (List (List Piece) × Script))
  | redirected (line : Nat) (body : Script) (redirects : List Redirect)
  | apart (line : Nat) (body : Script) (redirects : List Redirect)
  | define (name : String) (line : Nat) (body : Script)

end

abbrev Word := List Piece

instance : Inhabited Piece := ⟨.text false []⟩
instance : Inhabited Form := ⟨.plain⟩
instance : Inhabited Redirect := ⟨.document 0 0⟩
instance : Inhabited Script := ⟨.sequence []⟩

/-- Commands of the language itself whose failure ends a script. -/
def specialBuiltins : List String :=
  [".", ":", "break", "continue", "eval", "exec", "exit", "export", "local", "readonly", "return",
   "set", "shift", "times", "trap", "unset"]

def isNameStart (c : Char) : Bool := c.isAlpha || c == '_'

def isNameChar (c : Char) : Bool := c.isAlphanum || c == '_'

def isName (cs : List Char) : Bool :=
  match cs with
  | [] => false
  | c :: rest => isNameStart c && rest.all isNameChar

/-- The name and the value of a text that assigns. -/
def splitAssignment? (cs : List Char) : Option (String × List Char) :=
  let name := cs.takeWhile isNameChar
  match cs.drop name.length with
  | '=' :: value => if isName name then some (String.ofList name, value) else none
  | _ => none

/-- Whether a word assigns: a name and an equals sign begin it, without quotes. -/
def Word.assigns (w : Word) : Bool :=
  match w with
  | .text false cs :: _ => (splitAssignment? cs).isSome
  | _ => false

/-- The text of a word without quotes and parameters. -/
def Word.plain? (w : Word) : Option String :=
  match w with
  | [.text false cs] => some (String.ofList cs)
  | _ => none

end DocLaunch.Shell
