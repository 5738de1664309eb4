namespace DocLaunch

/-- A finite number stands for `m * 2 ^ e`, with `m < 2 ^ 53` and `e` between `-1074` and `971`. -/
inductive Binary64 where
  | finite (negative : Bool) (m : Nat) (e : Int)
  | infinite (negative : Bool)
  | nan
  deriving DecidableEq, Repr

namespace Binary64

def bound : Nat := 0x20000000000000

/-- Significands with all their bits lie from `2 ^ 52` on. -/
def half : Nat := 0x10000000000000

/-- Divide and round to the nearest integer, a half to the even one. -/
def divideRound (num den : Nat) : Nat :=
  let q := num / den
  let twice := 2 * (num % den)
  if twice < den then q
  else if den < twice then q + 1
  else if q % 2 = 0 then q else q + 1

/-- The fraction `num / den * 2 ^ (-e)`, as numerator and denominator. -/
def scaleDown (num den : Nat) (e : Int) : Nat × Nat :=
  (num * Nat.pow 2 (-e).toNat, den * Nat.pow 2 e.toNat)

/-- The exponent of the last bit that a number near `num / den` keeps. -/
def lastBit (num den : Nat) : Int :=
  let low : Int := (Nat.log2 num : Int) - (Nat.log2 den : Int) - 53
  let (n, d) := scaleDown num den low
  max (if bound ≤ n / d then low + 1 else low) (-1074)

/-- The number nearest to `num / den`; beyond the largest one lies infinity. -/
def ofFraction (negative : Bool) (num den : Nat) : Binary64 :=
  let e := lastBit num den
  let (n, d) := scaleDown num den e
  let m := divideRound n d
  let (m, e) := if m = bound then (half, e + 1) else (m, e)
  if 971 < e then .infinite negative else .finite negative m e

/--
The number nearest to `digits * 10 ^ exponent`. Magnitudes far outside the range are settled by
counting digits.
-/
def ofDecimal (negative : Bool) (digits : Nat) (exponent : Int) : Binary64 :=
  let magnitude := exponent + (Nat.toDigits 10 digits).length
  if digits = 0 ∨ magnitude < -400 then .finite negative 0 (-1074)
  else if 400 < magnitude then .infinite negative
  else ofFraction negative (digits * Nat.pow 10 exponent.toNat)
    (Nat.pow 10 (-exponent).toNat)

/--
The multiples of `10 ^ p` beside `m * 2 ^ e` that read back as it, the nearer one if both do and the
greater one of two as near. An end of the interval belongs to it when `m` is even.
-/
def shortestAt? (m : Nat) (e p : Int) : Option Nat :=
  -- a quarter of the last bit and a multiple of the power of ten, over one denominator
  let bit := Nat.pow 2 (e - 2).toNat * Nat.pow 10 (-p).toNat
  let ten := Nat.pow 10 p.toNat * Nat.pow 2 (2 - e).toNat
  let value := 4 * m * bit
  let low := (if m = half ∧ -1074 < e then 4 * m - 1 else 4 * m - 2) * bit
  let high := (4 * m + 2) * bit
  let inside (k : Nat) : Bool :=
    if m % 2 = 0 then low ≤ k * ten && k * ten ≤ high else low < k * ten && k * ten < high
  let k := value / ten
  match inside k, inside (k + 1) with
  | true, true => if value - k * ten < (k + 1) * ten - value then some k else some (k + 1)
  | true, false => some k
  | false, true => some (k + 1)
  | false, false => none

/-- Try ever finer powers of ten, beginning with `10 ^ p`. -/
def shortestFrom (m : Nat) (e : Int) : Nat → Int → Nat × Int
  | 0, _ => (m, 0)
  | n + 1, p =>
    match shortestAt? m e p with
    | some k => (k, p)
    | none => shortestFrom m e n (p - 1)

def shortest (m : Nat) (e : Int) : Nat × Int :=
  shortestFrom m e 400 ((e + (Nat.log2 m + 1 : Nat)) * 30103 / 100000 + 1)

/-- Digits with a point, never an exponent, and at least one place after the point. -/
def positional (digits : List Char) (p : Int) : List Char :=
  if 0 ≤ p then digits ++ List.replicate p.toNat '0' ++ ['.', '0']
  else
    let places := (-p).toNat
    let padded := List.replicate (places + 1 - digits.length) '0' ++ digits
    padded.take (padded.length - places) ++ '.' :: padded.drop (padded.length - places)

def toText : Binary64 → String
  | .nan => "NaN"
  | .infinite negative => if negative then "-inf" else "inf"
  | .finite negative m e =>
    let (k, p) := if m = 0 then (0, 0) else shortest m e
    String.ofList ((if negative then ['-'] else []) ++ positional (Nat.toDigits 10 k) p)

end Binary64
end DocLaunch
