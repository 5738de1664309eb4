import DocLaunch.Machine.Bytes
import DocLaunch.Number.Formatted

namespace DocLaunch.Tool

open Machine (Bytes)
open Number (Layout)

namespace Format

def isOctal (c : Char) : Bool := '0' ≤ c && c ≤ '7'

def takeOctal (n : Nat) (cs : List Char) : Char × List Char :=
  let digits := (cs.take n).takeWhile isOctal
  (Char.ofNat (digits.foldl (fun k c => 8 * k + (c.toNat - '0'.toNat)) 0 % 256),
    cs.drop digits.length)

/-- The character that a letter behind a backslash stands for. -/
def letterEscape? : Char → Option Char
  | 'a' => some '\x07'
  | 'b' => some '\x08'
  | 'e' => some '\x1b'
  | 'f' => some '\x0c'
  | 'n' => some '\n'
  | 'r' => some '\r'
  | 't' => some '\t'
  | 'v' => some '\x0b'
  | '\\' => some '\\'
  | _ => none

/-- An escape behind its backslash; what is none leaves the backslash. -/
def escape (cs : List Char) : Char × List Char :=
  match cs with
  | c :: rest =>
    if isOctal c then takeOctal 3 cs
    else
      match letterEscape? c with
      | some d => (d, rest)
      | none => ('\\', cs)
  | [] => ('\\', [])

/--
Text with its escapes resolved, and whether `\c` ended it. Octal numbers may begin with a zero.
-/
def unescape : Nat → List Char → List Char × Bool
  | 0, _ => ([], false)
  | n + 1, cs =>
    match cs with
    | [] => ([], false)
    | '\\' :: 'c' :: _ => ([], true)
    | '\\' :: rest =>
      let rest := match rest with
        | '0' :: d :: _ => if isOctal d then rest.drop 1 else rest
        | rest => rest
      let (c, rest) := escape rest
      let (cs, stop) := unescape n rest
      (c :: cs, stop)
    | c :: rest =>
      let (cs, stop) := unescape n rest
      (c :: cs, stop)

/-- What comes of a format: text, complaints on the way, and why it ended early. -/
structure Printed where
  output : List Char := []
  complaints : List Bytes := []
  status : Nat := 0
  error? : Option Bytes := none
  /-- Nothing more is to be printed. -/
  stopped : Bool := false
  args : List Bytes := []
  used : Bool := false

namespace Printed

def put (p : Printed) (cs : List Char) : Printed :=
  { p with output := p.output ++ cs }

def next (p : Printed) : Bytes × Printed :=
  match p.args with
  | [] => ("", p)
  | a :: args => (a, { p with args, used := true })

def complain (p : Printed) (text : Bytes) : Printed :=
  { p with complaints := p.complaints ++ [text], status := 1 }

def check (p : Printed) (text : Bytes) (rest : List Char) (nothing : Bool) : Printed :=
  if nothing && !text.isEmpty then p.complain (text ++ ": expected numeric value")
  else if !rest.isEmpty then p.complain (text ++ ": not completely converted")
  else p

end Printed

def isSpace (c : Char) : Bool := c == ' ' || ('\t' ≤ c && c ≤ '\r')

def digitValue (c : Char) : Nat :=
  if c.isDigit then c.toNat - '0'.toNat
  else if 'a' ≤ c ∧ c ≤ 'f' then c.toNat - 'a'.toNat + 10
  else if 'A' ≤ c ∧ c ≤ 'F' then c.toNat - 'A'.toNat + 10
  else 16

def takeSign (cs : List Char) : Bool × List Char :=
  match cs with
  | '-' :: cs => (true, cs)
  | '+' :: cs => (false, cs)
  | cs => (false, cs)

/-- A whole number in the base that its first digits tell, and what follows it. -/
def readWhole (cs : List Char) : Option (Int × List Char) :=
  let (minus, cs) := takeSign (cs.dropWhile isSpace)
  let (base, cs) := match cs with
    | '0' :: x :: d :: rest =>
      if (x = 'x' ∨ x = 'X') ∧ digitValue d < 16 then (16, d :: rest) else (8, cs)
    | '0' :: _ => (8, cs)
    | _ => (10, cs)
  let digits := cs.takeWhile fun c => digitValue c < base
  if digits.isEmpty then none
  else
    let n : Int := digits.foldl (fun n c => base * n + digitValue c) (0 : Nat)
    some (if minus then -n else n, cs.drop digits.length)

/-- The number of an argument; a quote stands before a character. -/
def wholeNumber (p : Printed) : Int × Printed :=
  if p.args.isEmpty then (0, p)
  else
    let (text, p) := p.next
    match text.toList with
    | '\'' :: c :: _ | '"' :: c :: _ => (c.toNat, p)
    | cs =>
      match readWhole cs with
      | some (n, rest) => (n, p.check text rest false)
      | none => (0, p.check text [] true)

/-- A decimal with a fraction and an exponent, and what follows it. -/
def readFloating (cs : List Char) : Option (Binary64 × List Char) :=
  let (minus, cs) := takeSign (cs.dropWhile isSpace)
  let lower := String.ofList (cs.map Char.toLower)
  if lower.startsWith "inf" then
    some (.infinite minus, cs.drop (if lower.startsWith "infinity" then 8 else 3))
  else if lower.startsWith "nan" then some (.nan, cs.drop 3)
  else
    match cs with
    | '0' :: x :: d :: _ =>
      if (x = 'x' ∨ x = 'X') ∧ digitValue d < 16 then
        (readWhole cs).map fun (n, rest) => (.ofDecimal minus n.toNat 0, rest)
      else decimal minus cs
    | _ => decimal minus cs
where
  decimal (minus : Bool) (cs : List Char) : Option (Binary64 × List Char) :=
    let whole := cs.takeWhile Char.isDigit
    let rest := cs.drop whole.length
    let (places, rest) := match rest with
      | '.' :: more =>
        let places := more.takeWhile Char.isDigit
        if whole.isEmpty && places.isEmpty then ([], rest) else (places, more.drop places.length)
      | _ => ([], rest)
    if whole.isEmpty && places.isEmpty then none
    else
      let (power, rest) : Int × List Char := match rest with
        | e :: more =>
          let (minus, more) := takeSign more
          let digits := more.takeWhile Char.isDigit
          if (e = 'e' ∨ e = 'E') ∧ !digits.isEmpty then
            let n : Int := digits.foldl (fun n c => 10 * n + digitValue c) (0 : Nat)
            (if minus then -n else n, more.drop digits.length)
          else (0, rest)
        | [] => (0, rest)
      let n := (whole ++ places).foldl (fun n c => 10 * n + digitValue c) (0 : Nat)
      some (.ofDecimal minus n (power - places.length), rest)

def floatingNumber (p : Printed) : Binary64 × Printed :=
  if p.args.isEmpty then (.finite false 0 0, p)
  else
    let (text, p) := p.next
    match text.toList with
    | '\'' :: c :: _ | '"' :: c :: _ => (.ofDecimal false c.toNat 0, p)
    | cs =>
      match readFloating cs with
      | some (x, rest) => (x, p.check text rest false)
      | none => (.finite false 0 0, p.check text [] true)

/-- One conversion by its letter, `none` if there is none of this letter. -/
def convert? (l : Layout) (letter : Char) (p : Printed) : Option Printed :=
  let unsignedWord (n : Int) : Nat := (n.emod 18446744073709551616).toNat
  let unsigned (base : Nat) : Printed :=
    let (n, p) := wholeNumber p
    p.put (l.unsigned base letter.isUpper (unsignedWord n))
  match letter with
  | 's' =>
    let (text, p) := p.next
    some (p.put (l.pad (match l.precision? with
      | some n => text.toList.take n
      | none => text.toList)))
  | 'b' =>
    let (text, p) := p.next
    let (cs, stopped) := unescape (text.length + 1) text.toList
    let cs := match l.precision? with
      | some n => cs.take n
      | none => cs
    some { p.put (l.pad cs) with stopped }
  | 'c' =>
    let (text, p) := p.next
    some (p.put (l.pad [text.toList.head?.getD '\x00']))
  | 'd' | 'i' =>
    let (n, p) := wholeNumber p
    some (p.put (l.decimal n))
  | 'u' => some (unsigned 10)
  | 'o' => some (unsigned 8)
  | 'x' | 'X' => some (unsigned 16)
  | 'e' | 'E' | 'f' | 'F' | 'g' | 'G' =>
    let (x, p) := floatingNumber p
    some (p.put (l.floating letter x))
  | _ => none

def readSize (cs : List Char) (p : Printed) : Option Int × List Char × Printed :=
  match cs with
  | '*' :: rest =>
    let (n, p) := wholeNumber p
    (some n, rest, p)
  | _ =>
    let digits := cs.takeWhile Char.isDigit
    ((String.ofList digits).toNat?.map Int.ofNat, cs.drop digits.length, p)

/-- A conversion behind its percent sign: its layout and what follows. -/
def readLayout (cs : List Char) (p : Printed) : Layout × List Char × Printed :=
  let flags := cs.takeWhile ['-', '+', ' ', '#', '0'].contains
  let (width?, rest, p) := readSize (cs.drop flags.length) p
  let (precision?, rest, p) := match rest with
    | '.' :: rest =>
      let (n?, rest, p) := readSize rest p
      (some (n?.getD 0), rest, p)
    | rest => (none, rest, p)
  let width := width?.getD 0
  ({ left := flags.contains '-' || width < 0
     plus := flags.contains '+'
     space := flags.contains ' '
     alternate := flags.contains '#'
     zero := flags.contains '0'
     width := width.natAbs
     precision? := precision?.bind fun n => if n < 0 then none else some n.toNat }, rest, p)

def pass : Nat → List Char → Printed → Printed
  | 0, _, p => p
  | n + 1, cs, p =>
    match cs with
    | [] => p
    | '\\' :: rest =>
      let (c, rest) := escape rest
      pass n rest (p.put [c])
    | '%' :: '%' :: rest => pass n rest (p.put ['%'])
    | '%' :: rest =>
      let (layout, rest, p) := readLayout rest p
      match rest with
      | [] => { p with error? := some "missing format character" }
      | letter :: after =>
        match convert? layout letter p with
        | some p => if p.stopped then p else pass n after p
        | none =>
          let directive := cs.take (cs.length - after.length)
          { p with error? := some (String.ofList directive ++ ": invalid directive") }
    | c :: rest => pass n rest (p.put [c])

/-- The format is used again as long as there are arguments that it uses. -/
def passes (format : List Char) : Nat → Printed → Printed
  | 0, p => p
  | n + 1, p =>
    let p := pass (format.length + 1) format { p with used := false }
    if p.used && !p.args.isEmpty && !p.stopped && p.error?.isNone then passes format n p else p

def print (format : Bytes) (args : List Bytes) : Printed :=
  passes format.toList (args.length + 1) { args }

/-- The text of `echo`: every escape counts, and `-n` leaves the end of the line away. -/
def echo (args : List Bytes) : Bytes :=
  let (ended, args) := match args with
    | "-n" :: args => (false, args)
    | args => (true, args)
  let text := (" ".intercalate args).toList
  let (cs, stop) := unescape (text.length + 1) text
  String.ofList cs ++ (if ended && !stop then "\n" else "")

end Format
end DocLaunch.Tool
