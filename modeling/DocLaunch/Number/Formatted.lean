import DocLaunch.Number.Binary64

namespace DocLaunch.Number

/-- What stands between the percent sign and the letter of a conversion. -/
structure Layout where
  left : Bool := false
  plus : Bool := false
  space : Bool := false
  alternate : Bool := false
  zero : Bool := false
  width : Nat := 0
  precision? : Option Nat := none
  deriving DecidableEq, Repr

namespace Layout

def pad (l : Layout) (cs : List Char) : List Char :=
  let blanks := List.replicate (l.width - cs.length) ' '
  if l.left then cs ++ blanks else blanks ++ cs

/-- Fill a number up, with zeros behind its sign if they are asked for. -/
def padNumber (l : Layout) (zeros : Bool) (sign digits : List Char) : List Char :=
  if zeros && !l.left then
    sign ++ List.replicate (l.width - sign.length - digits.length) '0' ++ digits
  else l.pad (sign ++ digits)

def sign (l : Layout) (negative : Bool) : List Char :=
  if negative then ['-'] else if l.plus then ['+'] else if l.space then [' '] else []

def digits (l : Layout) (base n : Nat) : List Char :=
  let ds := if n = 0 && l.precision? = some 0 then [] else Nat.toDigits base n
  List.replicate (l.precision?.getD 1 - ds.length) '0' ++ ds

def decimal (l : Layout) (n : Int) : List Char :=
  l.padNumber (l.zero && l.precision?.isNone) (l.sign (n < 0)) (l.digits 10 n.natAbs)

def unsigned (l : Layout) (base : Nat) (upper : Bool) (n : Nat) : List Char :=
  let ds := l.digits base n
  let ds := if l.alternate && base = 8 && ds.head? != some '0' then '0' :: ds else ds
  let mark := if l.alternate && base = 16 && n != 0 then ['0', 'x'] else []
  let raise (cs : List Char) := if upper then cs.map Char.toUpper else cs
  l.padNumber (l.zero && l.precision?.isNone) (raise mark) (raise ds)

/-- The value of a finite number times a power of ten, rounded to a whole number. -/
def scaled (m : Nat) (e p : Int) : Nat :=
  Binary64.divideRound (m * Nat.pow 2 e.toNat * Nat.pow 10 p.toNat)
    (Nat.pow 2 (-e).toNat * Nat.pow 10 (-p).toNat)

/-- A whole number with its last digits behind a point. -/
def withPoint (l : Layout) (places n : Nat) : List Char :=
  let ds := Nat.toDigits 10 n
  let ds := List.replicate (places + 1 - ds.length) '0' ++ ds
  let whole := ds.take (ds.length - places)
  if places = 0 then if l.alternate then whole ++ ['.'] else whole
  else whole ++ '.' :: ds.drop (ds.length - places)

def fixed (l : Layout) (places m : Nat) (e : Int) : List Char :=
  l.withPoint places (scaled m e places)

/-- The decimal exponent of a number rounded to some digits, and these digits. -/
def scientific (places m : Nat) (e : Int) : Int × Nat :=
  if m = 0 then (0, 0)
  else
    let guess : Int := ((e + (Nat.log2 m : Nat)) * 30103).fdiv 100000
    let digits (x : Int) : Nat := scaled m e (places - x)
    let fits (x : Int) : Bool :=
      Nat.pow 10 places ≤ digits x && digits x < Nat.pow 10 (places + 1)
    match [guess, guess + 1, guess - 1, guess + 2].find? fits with
    | some x => (x, digits x)
    | none => (guess, digits guess)

def exponent (x : Int) : List Char :=
  let ds := Nat.toDigits 10 x.natAbs
  ['e', if x < 0 then '-' else '+'] ++ List.replicate (2 - ds.length) '0' ++ ds

/-- A number without the zeros behind its point. -/
def withoutZeros (l : Layout) (cs : List Char) : List Char :=
  if l.alternate || !cs.contains '.' then cs
  else
    let cs := (cs.reverse.dropWhile (· == '0')).reverse
    if cs.getLast? = some '.' then cs.dropLast else cs

/-- Few digits: with an exponent only if the number is small or has more digits than are shown. -/
def general (l : Layout) (m : Nat) (e : Int) : List Char :=
  let precision := max (l.precision?.getD 6) 1
  let (x, n) := scientific (precision - 1) m e
  if x < -4 || (precision : Int) ≤ x then
    l.withoutZeros (l.withPoint (precision - 1) n) ++ exponent x
  else l.withoutZeros (l.fixed (precision - 1 - x).toNat m e)

def floating (l : Layout) (letter : Char) (x : Binary64) : List Char :=
  let raise (cs : List Char) := if letter.isUpper then cs.map Char.toUpper else cs
  match x with
  | .nan => l.pad (raise "nan".toList)
  | .infinite negative => l.pad (l.sign negative ++ raise "inf".toList)
  | .finite negative m e =>
    let places := l.precision?.getD 6
    let ds := match letter.toLower with
      | 'e' =>
        let (x, n) := scientific places m e
        l.withPoint places n ++ exponent x
      | 'f' => l.fixed places m e
      | _ => l.general m e
    l.padNumber l.zero (l.sign negative) (raise ds)

end Layout
end DocLaunch.Number
