import DocLaunch.Shell.Pattern

namespace DocLaunch.Shell

inductive Atom where
  /-- A character; `splits` tells whether it may separate fields. -/
  | char (m : Mark) (splits : Bool)
  /-- Quotes around nothing. -/
  | mark
  /-- An argument ends here, even if it is empty. -/
  | cut
  /-- An argument ends here, unless it is empty. -/
  | softCut
  /-- What may separate fields ends here. -/
  | edge
  deriving DecidableEq, Repr

namespace Atom

def ofText (quoted splits : Bool) (s : List Char) : List Atom :=
  s.map fun c => char ⟨c, quoted⟩ splits

/-- The character of an atom, if it has one. -/
def mark? : Atom → Option Mark
  | char m _ => some m
  | _ => none

def text (between : List Char) (atoms : List Atom) : List Char :=
  atoms.flatMap fun
    | char m _ => [m.char]
    | cut | softCut => between
    | _ => []

def pattern (between : List Char) (atoms : List Atom) : Pattern :=
  atoms.flatMap fun
    | char m _ => [m]
    | cut | softCut => Pattern.ofChars true between
    | _ => []

end Atom

/-- Fields that are complete, the last one first, and one that is not, also reversed. -/
structure Fields where
  complete : List Pattern := []
  current : Option (List Mark) := none
  /-- Blanks right behind a field were passed, and a separator that is none may follow. -/
  behindBlank : Bool := false
  /-- A separator was passed, and blanks may follow. -/
  behindField : Bool := false

namespace Fields

def add (f : Fields) (m : Mark) : Fields :=
  { f with current := some (m :: f.current.getD []), behindBlank := false, behindField := false }

def touch (f : Fields) : Fields :=
  { f with current := some (f.current.getD []), behindBlank := false, behindField := false }

def close (f : Fields) : Fields :=
  match f.current with
  | none => f
  | some ms => { f with complete := ms.reverse :: f.complete, current := none }

def pass (f : Fields) (blank : Bool) : Fields :=
  match f.current with
  | some _ => { f.close with behindBlank := blank, behindField := true }
  | none =>
    if blank then f
    else if f.behindBlank then { f with behindBlank := false }
    else { f with complete := [] :: f.complete, behindBlank := false, behindField := true }

def isBlank (c : Char) : Bool := c == ' ' || c == '\t' || c == '\n'

def step (separators : List Char) (f : Fields) : Atom → Fields
  | .char m splits =>
    if splits && separators.contains m.char then f.pass (isBlank m.char) else f.add m
  | .mark => f.touch
  | .cut => { f.touch.close with behindBlank := false, behindField := false }
  | .softCut => { f.close with behindBlank := false, behindField := false }
  | .edge => { f with behindBlank := false, behindField := false }

def split (separators : List Char) (atoms : List Atom) : List Pattern :=
  (atoms.foldl (step separators) {}).close.complete.reverse

end Fields

/--
A line split into at most `n` fields, of which the last one holds the rest. Characters that do not
split belong to fields. Blanks around the rest are dropped, and a single separator behind it if
nothing else follows.
-/
def splitLine (separators : List Char) (atoms : List (Char × Bool)) : Nat → List (List Char)
  | 0 => []
  | n + 1 =>
    let isSeparator (a : Char × Bool) : Bool := a.2 && separators.contains a.1
    let isGap (a : Char × Bool) : Bool := isSeparator a && Fields.isBlank a.1
    let trimEnd (l : List (Char × Bool)) : List (Char × Bool) :=
      (l.reverse.dropWhile isGap).reverse
    let atoms := atoms.dropWhile isGap
    let field := atoms.takeWhile fun a => !isSeparator a
    let rest := (atoms.drop field.length).dropWhile isGap
    let after := match rest with
      | a :: more =>
        if isSeparator a then more.dropWhile isGap
        else rest
      | [] => []
    if n = 0 then
      -- the rest is one field if nothing but its separator follows it
      let whole := if after.isEmpty then field else trimEnd atoms
      [whole.map Prod.fst]
    else if atoms.isEmpty then []
    else (field.map Prod.fst) :: splitLine separators after n

end DocLaunch.Shell
