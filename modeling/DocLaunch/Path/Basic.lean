namespace DocLaunch

/-- A path as it is written. -/
abbrev Path := String

namespace Path

/-- Cut at every slash; `n` slashes give `n + 1` pieces. -/
def cut : List Char → List (List Char)
  | [] => [[]]
  | c :: rest =>
    if c = '/' then [] :: cut rest
    else match cut rest with
      | [] => [[c]]
      | piece :: pieces => (c :: piece) :: pieces

/-- What one piece of a path asks a walker to do. -/
inductive Segment where
  | stay
  | parent
  | name (n : String)
  deriving DecidableEq, Repr

/-- The empty piece between two slashes is no segment. -/
def Segment.ofPiece? : List Char → Option Segment
  | [] => none
  | ['.'] => some .stay
  | ['.', '.'] => some .parent
  | piece => some (.name (String.ofList piece))

/-- The segments of a path, from left to right. -/
def segments (p : Path) : List Segment :=
  (cut p.toList).filterMap Segment.ofPiece?

def isAbsolute (p : Path) : Bool :=
  p.toList.head? == some '/'

def endsInSlash (p : Path) : Bool :=
  p.toList.getLast? == some '/'

/-- An absolute second path replaces the first; else one slash stands between the two. -/
def join (base p : Path) : Path :=
  if isAbsolute p then p
  else if base.isEmpty || endsInSlash base then base ++ p
  else base ++ "/" ++ p

/--
Take trailing slashes and `.` pieces off a reversed path. A `.` that is the whole of a relative
path stands.
-/
def trimBack (absolute : Bool) : List Char → List Char
  | '/' :: rest => trimBack absolute rest
  | '.' :: '/' :: rest => trimBack absolute rest
  | ['.'] => if absolute then [] else ['.']
  | rest => rest

def dropPiece (absolute : Bool) (back : List Char) : List Char :=
  trimBack absolute (back.dropWhile (· != '/'))

/-- The text before the last piece, if there is a piece to take off. -/
def parent? (p : Path) : Option Path :=
  match p.toList with
  | [] => none
  | '/' :: rest =>
    match trimBack true rest.reverse with
    | [] => none
    | back => some (String.ofList ('/' :: (dropPiece true back).reverse))
  | cs => some (String.ofList (dropPiece false (trimBack false cs.reverse)).reverse)

def ancestorsWithin : Nat → Path → List Path
  | 0, p => [p]
  | n + 1, p =>
    match parent? p with
    | none => [p]
    | some q => p :: ancestorsWithin n q

/-- The path, its parent text, and so on up to the text that has none. -/
def ancestors (p : Path) : List Path :=
  ancestorsWithin p.length p

/--
One segment further, on the text of a path without detours. Where there is no name to cancel, `..`
stands at the end of a relative path, and above the top there is nothing.
-/
def advance (out : Path) : Segment → Path
  | .stay => out
  | .name n => join out n
  | .parent =>
    match (segments out).getLast? with
    | none => if isAbsolute out then out else join out ".."
    | some .parent => join out ".."
    | some _ => (parent? out).getD out

/-- The shortest path that leads, without links, to the same place. -/
def normalize (p : Path) : Path :=
  (segments p).foldl advance (if isAbsolute p then "/" else "")

end Path
end DocLaunch
