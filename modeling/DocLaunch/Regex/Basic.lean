namespace DocLaunch

structure CharSet where
  negated : Bool
  ranges : List (Char × Char)
  deriving DecidableEq, Repr

inductive Regex where
  | empty
  | char (c : Char)
  | any
  | set (s : CharSet)
  | sequence (first second : Regex)
  | either (first second : Regex)
  /--
  At least `least` times, at most `most` times if that is given, rather often than not if greedy.
  -/
  | repeated (r : Regex) (least : Nat) (most : Option Nat) (greedy : Bool)
  | group (n : Nat) (r : Regex)
  /-- What a group has fitted, once more. -/
  | again (n : Nat)
  | lineStart
  | lineEnd
  /-- Between a character of a word and one that is none, or not there. -/
  | edge (inside : Bool)
  | wordStart
  | wordEnd
  deriving DecidableEq, Repr

namespace Regex

/-- The groups that have fitted, with the positions where they begin and end. -/
abbrev Groups := List (Nat × Nat × Nat)

/-- The text that is searched, and whether letters fit regardless of case. -/
structure Subject where
  chars : Array Char
  folded : Bool := false

/-- A way to fit: the position behind it, and its groups. -/
abbrev Fit := Nat × Groups

def isWordChar (c : Char) : Bool := c.isAlphanum || c == '_'

namespace Subject

def size (t : Subject) : Nat := t.chars.size

def isWordAt (t : Subject) (i : Nat) : Bool := t.chars[i]?.any isWordChar

def isWordBefore (t : Subject) : Nat → Bool
  | 0 => false
  | i + 1 => t.isWordAt i

def slice (t : Subject) (i j : Nat) : List Char := (t.chars.extract i j).toList

end Subject

def same (folded : Bool) (a b : Char) : Bool :=
  a == b || (folded && a.toLower == b.toLower)

def CharSet.fits (folded : Bool) (s : CharSet) (c : Char) : Bool :=
  let within (c : Char) : Bool := s.ranges.any fun r => r.1 ≤ c && c ≤ r.2
  (within c || (folded && (within c.toLower || within c.toUpper))) != s.negated

/-- Go on by one character if it is right. -/
def step (t : Subject) (right : Char → Bool) : Fit → List Fit
  | (i, gs) => if t.chars[i]?.any right then [(i + 1, gs)] else []

/-- Stay if something holds of the position. -/
def look (holds : Nat → Bool) : Fit → List Fit
  | (i, gs) => if holds i then [(i, gs)] else []

/--
Repeat a step; a round that goes nowhere is not repeated. The first number bounds the rounds.
-/
def rounds (once : Fit → List Fit) (greedy : Bool) : Nat → Nat → Option Nat → Fit → List Fit
  | 0, _, _, f => [f]
  | n + 1, least, most, f =>
    let more :=
      if most = some 0 then []
      else
        ((once f).filter fun g => 0 < least || g.1 != f.1).flatMap
          (rounds once greedy n (least - 1) (most.map (· - 1)))
    let stop := if least = 0 then [f] else []
    (if greedy then more ++ stop else stop ++ more).eraseDups

/-- All ways to fit from a position, the preferred ones first. -/
def fits (t : Subject) : Regex → Fit → List Fit
  | empty, f => [f]
  | char c, f => step t (same t.folded c) f
  | any, f => step t (· != '\n') f
  | set s, f => step t (CharSet.fits t.folded s) f
  | sequence a b, f => ((fits t a f).flatMap (fits t b)).eraseDups
  | either a b, f => (fits t a f ++ fits t b f).eraseDups
  | repeated r least most greedy, f =>
    rounds (fits t r) greedy (least + t.size - f.1 + 1) least most f
  | group n r, (i, gs) =>
    (fits t r (i, gs)).map fun (j, gs) => (j, (n, i, j) :: gs.filter fun g => g.1 != n)
  | again n, (i, gs) =>
    match gs.lookup n with
    | none => []
    | some (j, k) =>
      let found := t.slice i (i + (k - j))
      if found.length = k - j && (found.zip (t.slice j k)).all fun (a, b) => same t.folded a b
      then [(i + (k - j), gs)] else []
  | lineStart, f => look (· == 0) f
  | lineEnd, f => look (· == t.size) f
  | edge inside, f => look (fun i => (t.isWordBefore i != t.isWordAt i) != inside) f
  | wordStart, f => look (fun i => !t.isWordBefore i && t.isWordAt i) f
  | wordEnd, f => look (fun i => t.isWordBefore i && !t.isWordAt i) f

structure Found where
  start : Nat
  stop : Nat
  groups : Groups
  deriving DecidableEq, Repr

def searchBy (choose : List Fit → Option Fit) (r : Regex) (t : Subject) (start : Nat) :
    Option Found :=
  (List.range (t.size + 1 - start)).findSome? fun k =>
    (choose (fits t r (start + k, []))).map fun (stop, groups) => ⟨start + k, stop, groups⟩

/-- The first place where an expression fits, as the expression prefers. -/
def search (r : Regex) (t : Subject) (start : Nat) : Option Found :=
  searchBy List.head? r t start

/-- The first place where an expression fits, as far as possible. -/
def searchLongest (r : Regex) (t : Subject) (start : Nat) : Option Found :=
  searchBy (fun fs => fs.foldl (fun best f => match best with
    | none => some f
    | some b => if b.1 < f.1 then some f else best) none) r t start

def Found.group (t : Subject) (m : Found) (n : Nat) : List Char :=
  if n = 0 then t.slice m.start m.stop
  else
    match m.groups.lookup n with
    | some (i, j) => t.slice i j
    | none => []

end Regex
end DocLaunch
