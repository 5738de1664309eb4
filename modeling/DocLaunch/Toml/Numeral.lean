import DocLaunch.Number.Binary64
import DocLaunch.Text.Basic

namespace DocLaunch.Toml

open Text

/-- The digits that may follow a digit; one underscore may stand between two digits. -/
def digitTail (isDigit : Char → Bool) : List Char → List Char × List Char
  | '_' :: c :: rest =>
    if isDigit c then
      let (digits, rest) := digitTail isDigit rest
      (c :: digits, rest)
    else ([], '_' :: c :: rest)
  | c :: rest =>
    if isDigit c then
      let (digits, rest) := digitTail isDigit rest
      (c :: digits, rest)
    else ([], c :: rest)
  | [] => ([], [])

def readDigits (isDigit : Char → Bool) : List Char → Option (List Char × List Char)
  | [] => none
  | c :: rest =>
    if isDigit c then
      let (digits, rest) := digitTail isDigit rest
      some (c :: digits, rest)
    else none

def readWhole : List Char → Option (List Char × List Char)
  | '0' :: rest => some (['0'], rest)
  | cs => readDigits Char.isDigit cs

def readSign : List Char → Bool × List Char
  | '-' :: rest => (true, rest)
  | '+' :: rest => (false, rest)
  | cs => (false, cs)

/-- Integers have 64 bits. -/
def inRange (i : Int) : Bool :=
  -0x8000000000000000 ≤ i && i < 0x8000000000000000

/-- An integer in a base other than ten has no sign. -/
def readInBase (base : Nat) (cs : List Char) : Option (Int × List Char) := do
  let (digits, rest) ← readDigits (isDigitOf base) cs
  let n : Int := valueOf base digits
  if inRange n then some (n, rest) else none

def readInteger : List Char → Option (Int × List Char)
  | '0' :: 'x' :: rest => readInBase 16 rest
  | '0' :: 'o' :: rest => readInBase 8 rest
  | '0' :: 'b' :: rest => readInBase 2 rest
  | cs => do
    let (negative, cs) := readSign cs
    let (digits, rest) ← readWhole cs
    let n : Int := valueOf 10 digits
    let n := if negative then -n else n
    if inRange n then some (n, rest) else none

/-- The power of ten behind `e`, if there is one. -/
def readExponent : List Char → Option (Int × List Char)
  | c :: rest =>
    if c = 'e' ∨ c = 'E' then do
      let (negative, rest) := readSign rest
      let (digits, rest) ← readDigits Char.isDigit rest
      let n : Int := valueOf 10 digits
      some (if negative then -n else n, rest)
    else none
  | [] => none

/-- What stands behind the whole part: a fraction, an exponent, or both, but not neither. -/
def readFractional (cs : List Char) : Option (List Char × Int × List Char) :=
  match cs with
  | '.' :: rest => do
    let (digits, rest) ← readDigits Char.isDigit rest
    match readExponent rest with
    | some (exponent, rest) => some (digits, exponent, rest)
    | none => some (digits, 0, rest)
  | _ => (readExponent cs).map fun (exponent, rest) => ([], exponent, rest)

/-- A number too large for the format is refused, a negative one becomes infinite. -/
def readDecimal (cs : List Char) : Option (Binary64 × List Char) := do
  let (negative, cs) := readSign cs
  let (whole, cs) ← readWhole cs
  let (fraction, exponent, rest) ← readFractional cs
  let x := Binary64.ofDecimal negative (valueOf 10 (whole ++ fraction))
    (exponent - fraction.length)
  if x = .infinite false then none else some (x, rest)

def readSpecial (cs : List Char) : Option (Binary64 × List Char) :=
  match readSign cs with
  | (negative, 'i' :: 'n' :: 'f' :: rest) => some (.infinite negative, rest)
  | (_, 'n' :: 'a' :: 'n' :: rest) => some (.nan, rest)
  | _ => none

end DocLaunch.Toml
