import DocLaunch.Machine.Program
import DocLaunch.Regex.Reader
import DocLaunch.Tool.Columns
import DocLaunch.Tool.Condition
import DocLaunch.Tool.Format

namespace DocLaunch.Tool

open Machine (Bytes Work)

def trimSlashes (s : Bytes) : Bytes :=
  let cs := (s.toList.reverse.dropWhile (· == '/')).reverse
  if cs.isEmpty && !s.isEmpty then "/" else String.ofList cs

def lastPart (s : Bytes) : Bytes :=
  let trimmed := trimSlashes s
  if trimmed = "/" then "/" else (trimmed.splitOn "/").getLast?.getD ""

def parentPart (s : Bytes) : Bytes :=
  let trimmed := trimSlashes s
  if trimmed = "/" then "/"
  else
    let cs := (trimmed.toList.reverse.dropWhile (· != '/')).reverse
    if cs.isEmpty then "." else trimSlashes (String.ofList cs)

def withoutSuffix (s suffix : Bytes) : Bytes :=
  if suffix.length < s.length && s.endsWith suffix then (s.dropEnd suffix.length).toString else s

def baseName : Utility := withOptions
    [flag 'a' "multiple", valued 's' "suffix", flag 'z' "zero"] (fun name o => do
  let several := o.has "a" || o.has "s"
  match o.operands with
  | [] => misuse name "missing operand"
  | first :: rest =>
    if !several && 1 < rest.length then misuse name ("extra operand " ++ quoted (rest[1]?.getD ""))
    else
      let suffix := if several then (o.value? "s").getD "" else rest.headD ""
      for s in (if several then o.operands else [first]) do
        say (withoutSuffix (lastPart s) suffix ++ (if o.has "z" then "\x00" else "\n"))
      return 0) false

def dirName : Utility := withOptions [flag 'z' "zero"] fun name o => do
  if o.operands.isEmpty then misuse name "missing operand"
  else
    for s in o.operands do say (parentPart s ++ (if o.has "z" then "\x00" else "\n"))
    return 0

/-- A decimal number: its digits as a whole number, and how many of them are places. -/
def decimal? (s : Bytes) : Option (Int × Nat) := do
  let (minus, cs) := match s.toList with
    | '-' :: rest => (true, rest)
    | '+' :: rest => (false, rest)
    | cs => (false, cs)
  let whole := cs.takeWhile Char.isDigit
  let places ← match cs.drop whole.length with
    | [] => some []
    | '.' :: rest => if rest.all Char.isDigit then some rest else none
    | _ => none
  if whole.isEmpty && places.isEmpty then none
  let n := (whole ++ places).foldl (fun n c => 10 * n + (c.toNat - '0'.toNat)) 0
  some (if minus then -(n : Int) else n, places.length)

def decimalText (n : Int) (places : Nat) : Bytes :=
  let digits := (toString n.natAbs).toList
  let digits := List.replicate (places + 1 - digits.length) '0' ++ digits
  let whole := digits.take (digits.length - places)
  let text := if places = 0 then whole else whole ++ '.' :: digits.drop (digits.length - places)
  (if n < 0 then "-" else "") ++ String.ofList text

def scaleTo (places : Nat) (n : Int × Nat) : Int := n.1 * (Nat.pow 10 (places - n.2) : Nat)

def seq : Utility := fun name args =>
  -- negative numbers are no options
  let isNumber (s : Bytes) : Bool := match s.toList with
    | '-' :: c :: _ => c.isDigit || c == '.'
    | _ => false
  let rules := [valued 'f' "format", valued 's' "separator", flag 'w' "equal-width"]
  let at' := (args.findIdx? isNumber).getD args.length
  let before := args.take at'
  let marked := match Options.read rules false before with
    | .ok o => o.operands.isEmpty && !before.contains "--" && at' < args.length
    | .error _ => false
  withOptions rules (fun name o => do
    let wrong := o.operands.find? fun s => (decimal? s).isNone
    match wrong with
    | some s => misuse name ("invalid floating point argument: " ++ quoted s)
    | none =>
      let numbers := o.operands.filterMap decimal?
      let run (first step last : Int × Nat) : Work Nat := do
        if step.1 = 0 then
          return ← misuse name ("invalid Zero increment value: " ++ quoted (o.operands[1]?.getD ""))
        let places := max first.2 step.2
        let scale := max places last.2
        let (a, d, z) := (scaleTo scale first, scaleTo scale step, scaleTo scale last)
        let count := if 0 < d then (if z < a then 0 else ((z - a) / d).toNat + 1)
          else if a < z then 0 else ((a - z) / (-d)).toNat + 1
        let drop : Int := (Nat.pow 10 (scale - places) : Nat)
        let values := (List.range count).map fun (i : Nat) => (a + d * i) / drop
        let texts := match o.value? "f" with
          | some format =>
            values.map fun v => String.ofList (Format.print format [decimalText v places]).output
          | none => values.map fun v => decimalText v places
        let width := texts.foldl (fun n t => max n t.length) 0
        let texts := if o.has "w" then
            texts.map fun t =>
              let zeros := String.ofList (List.replicate (width - t.length) '0')
              if t.startsWith "-" then "-" ++ zeros ++ (t.drop 1).toString else zeros ++ t
          else texts
        if !texts.isEmpty then say (((o.value? "s").getD "\n").intercalate texts ++ "\n")
        return 0
      match numbers with
      | [] => misuse name "missing operand"
      | [last] => run (1, 0) (1, 0) last
      | [first, last] => run first (1, 0) last
      | [first, step, last] => run first step last
      | _ => misuse name ("extra operand " ++ quoted (o.operands[3]?.getD ""))) false 1
    name (if marked then before ++ "--" :: args.drop at' else args)

/-- Values and operators of `expr`. The value of a condition is 1 or 0. -/
abbrev ExprResult := Except (Bytes × Nat) (Bytes × List Bytes)

def exprNumber? (s : Bytes) : Option Int :=
  match s.toList with
  | '-' :: cs => (number? (String.ofList cs)).map fun n => -(n : Int)
  | _ => (number? s).map fun n => (n : Int)

def exprNull (s : Bytes) : Bool :=
  s.isEmpty || (match s.toList with
    | '-' :: cs => !cs.isEmpty && cs.all (· == '0')
    | cs => cs.all (· == '0'))

/-- What a pattern fits at the start of a text: its first group, or how many characters. -/
def exprMatch (s pattern : Bytes) : Except (Bytes × Nat) Bytes :=
  let body := match pattern.toList with
    | '^' :: rest => rest
    | cs => cs
  match Regex.ofText? .basic ('^' :: body) with
  | none => .error ("Invalid regular expression", 2)
  | some r =>
    let t : Regex.Subject := { chars := s.toList.toArray }
    let grouped := (pattern.splitOn "\\(").length != 1
    match r.searchLongest t 0 with
    | some m =>
      .ok (if grouped then String.ofList (m.group t 1) else toString (m.stop - m.start))
    | none => .ok (if grouped then "" else "0")

def exprSyntax (args : List Bytes) (before : Bytes) : Bytes × Nat :=
  match args with
  | [] => ("syntax error: missing argument after " ++ quoted before, 2)
  | arg :: _ => ("syntax error: unexpected argument " ++ quoted arg, 2)

def exprCompare (op a b : Bytes) : Bytes :=
  let found := match exprNumber? a, exprNumber? b with
    | some x, some y => compare x y
    | _, _ => compareChars a.toList b.toList
  let holds : Bool := match op with
    | "<" => found = .lt
    | "<=" => found != .gt
    | "=" | "==" => found = .eq
    | "!=" => found != .eq
    | ">=" => found != .lt
    | _ => found = .gt
  if holds then "1" else "0"

def exprArithmetic (op a b : Bytes) : Except (Bytes × Nat) Bytes :=
  match exprNumber? a, exprNumber? b with
  | some x, some y =>
    match op with
    | "+" => .ok (toString (x + y))
    | "-" => .ok (toString (x - y))
    | "*" => .ok (toString (x * y))
    | _ =>
      if y = 0 then .error ("division by zero", 2)
      else .ok (toString (if op = "/" then x.tdiv y else x.tmod y))
  | _, _ => .error ("non-integer argument", 2)

/-- The levels of operators that bind to the left, the loosest first. -/
def exprLevels : List (List String) :=
  [["|"], ["&"], ["<", "<=", "=", "==", "!=", ">=", ">"], ["+", "-"], ["*", "/", "%"], [":"]]

def exprApply (op a b : Bytes) : Except (Bytes × Nat) Bytes :=
  match op with
  | "|" => .ok (if exprNull a then (if exprNull b then "0" else b) else a)
  | "&" => .ok (if exprNull a || exprNull b then "0" else a)
  | ":" => exprMatch a b
  | "<" | "<=" | "=" | "==" | "!=" | ">=" | ">" => .ok (exprCompare op a b)
  | op => exprArithmetic op a b

mutual

def exprLevel : Nat → List (List String) → Bytes → List Bytes → ExprResult
  | 0, _, _, args => .error (exprSyntax args "")
  | n + 1, [], before, args => exprPrimary n before args
  | n + 1, ops :: levels, before, args => do
    let (value, rest) ← exprLevel n levels before args
    exprRest n ops levels value rest

def exprRest : Nat → List String → List (List String) → Bytes → List Bytes → ExprResult
  | 0, _, _, _, args => .error (exprSyntax args "")
  | n + 1, ops, levels, value, args =>
    match args with
    | op :: rest =>
      if ops.contains op then do
        let (other, rest) ← exprLevel n levels op rest
        exprRest n ops levels (← exprApply op value other) rest
      else .ok (value, args)
    | [] => .ok (value, [])

def exprPrimary : Nat → Bytes → List Bytes → ExprResult
  | 0, _, args => .error (exprSyntax args "")
  | n + 1, before, args => do
    match args with
    | [] => .error (exprSyntax [] before)
    | "(" :: rest =>
      let (value, rest) ← exprLevel n exprLevels "(" rest
      match rest with
      | ")" :: rest => .ok (value, rest)
      | [] => .error ("syntax error: expecting ')' after " ++ quoted (args.getLast?.getD ""), 2)
      | arg :: _ => .error ("syntax error: expecting ')' instead of " ++ quoted arg, 2)
    | ")" :: _ => .error ("syntax error: unexpected ')'", 2)
    | "+" :: value :: rest => .ok (value, rest)
    | "length" :: rest => do
      let (value, rest) ← exprPrimary n "length" rest
      .ok (toString value.length, rest)
    | "match" :: rest => do
      let (a, rest) ← exprPrimary n "match" rest
      let (b, rest) ← exprPrimary n a rest
      .ok (← exprMatch a b, rest)
    | "index" :: rest => do
      let (a, rest) ← exprPrimary n "index" rest
      let (b, rest) ← exprPrimary n a rest
      let place := (a.toList.findIdx? b.toList.contains).elim 0 (· + 1)
      .ok (toString place, rest)
    | "substr" :: rest => do
      let (a, rest) ← exprPrimary n "substr" rest
      let (i, rest) ← exprPrimary n a rest
      let (k, rest) ← exprPrimary n i rest
      match exprNumber? i, exprNumber? k with
      | some i, some k =>
        if i ≤ 0 || k ≤ 0 then .ok ("", rest)
        else .ok (String.ofList ((a.toList.drop (i - 1).toNat).take k.toNat), rest)
      | _, _ => .ok ("", rest)
    | value :: rest => .ok (value, rest)

end

def expr : Utility := fun name args => do
  let args := if args.head? = some "--" then args.drop 1 else args
  if args.isEmpty then misuse name "missing operand" 2
  else
    match exprLevel (20 * args.length + 20) exprLevels (args.getLast?.getD "") args with
    | .error (text, status) => fail name text status
    | .ok (value, []) =>
      sayLine value
      return if exprNull value then 1 else 0
    | .ok (_, rest) => fail name (exprSyntax rest "").1 2

def printEnvironment : Utility := withOptions [flag '0' "null"] (fun _ o => do
  let all := (← get).environment
  let mark := if o.has "0" then "\x00" else "\n"
  if o.operands.isEmpty then
    for entry in all do say (entry ++ mark)
    return 0
  else
    let mut status := 0
    for wanted in o.operands do
      let found := if wanted.toList.contains '=' then []
        else all.filterMap fun entry =>
          if entry.startsWith (wanted ++ "=") then some (entry.drop (wanted.length + 1)).toString
          else none
      if found.isEmpty then status := 1
      for value in found do say (value ++ mark)
    return status) false 2

def echo : Utility := fun _ args => do
  let isOption (s : Bytes) : Bool := match s.toList with
    | '-' :: c :: cs => (c :: cs).all ['n', 'e', 'E'].contains
    | _ => false
  let options := args.takeWhile isOption
  let letters := options.flatMap String.toList
  let escaped := (letters.filter fun c => c = 'e' || c = 'E').getLast? = some 'e'
  let text := " ".intercalate (args.drop options.length)
  let (shown, stopped) := if escaped then Format.unescape text.length text.toList
    else (text.toList, false)
  say (String.ofList shown ++ if letters.contains 'n' || stopped then "" else "\n")
  return 0

def printf : Utility := fun name args => do
  let args := if args.head? = some "--" then args.drop 1 else args
  match args with
  | [] => misuse name "missing operand"
  | format :: args =>
    let p := Format.print format args
    say (String.ofList p.output)
    for text in p.complaints do complain name text
    match p.error? with
    | some text => fail name text
    | none => return p.status

def testTool (bracket : Bool) : Utility := fun name args => do
  if bracket && args.getLast? != some "]" then fail name "missing ‘]’" 2
  else
    let args := if bracket then args.dropLast else args
    match Condition.holds (← get) (args.length + 1) args with
    | .ok holds => return if holds then 0 else 1
    | .error text => fail name text 2

def identity : Utility := withOptions
    [flag 'u' "user", flag 'g' "group", flag 'G' "groups", flag 'n' "name", flag 'r' "real"]
    fun _ o => do
  if o.has "u" || o.has "g" || o.has "G" then sayLine (if o.has "n" then "root" else "0")
  else sayLine "uid=0(root) gid=0(root) groups=0(root)"
  return 0

def userName : Utility := withOptions [] fun name o => do
  match o.operands with
  | [] =>
    sayLine "root"
    return 0
  | extra :: _ => misuse name ("extra operand " ++ quoted extra)

/-- The moment that the clock of the machine shows, which stands still. -/
def clock : List (Char × Bytes) :=
  [('Y', "1970"), ('y', "70"), ('m', "01"), ('d', "01"), ('e', " 1"), ('j', "001"), ('H', "00"),
   ('I', "12"), ('M', "00"), ('S', "00"), ('s', "0"), ('N', "000000000"), ('F', "1970-01-01"),
   ('T', "00:00:00"), ('R', "00:00"), ('D', "01/01/70"), ('a', "Thu"), ('A', "Thursday"),
   ('b', "Jan"), ('h', "Jan"), ('B', "January"), ('p', "AM"), ('Z', "UTC"), ('z', "+0000"),
   ('u', "4"), ('w', "4"), ('n', "\n"), ('t', "\t"), ('%', "%")]

def clockText : List Char → List Char
  | '%' :: c :: rest =>
    (match clock.lookup c with
      | some text => text.toList
      | none => ['%', c]) ++ clockText rest
  | c :: rest => c :: clockText rest
  | [] => []

def date : Utility := withOptions
    [flag 'u' "utc", valued 'd' "date", valued 'r' "reference", flag 'R' "rfc-email",
     ⟨some 'I', "iso-8601", .optional⟩] fun name o => do
  match o.operands with
  | [] =>
    sayLine (if o.has "I" then "1970-01-01" else "Thu Jan  1 00:00:00 UTC 1970")
    return 0
  | format :: _ =>
    match format.toList with
    | '+' :: cs =>
      sayLine (String.ofList (clockText cs))
      return 0
    | _ => fail name ("invalid date " ++ quoted format)

def systemName : Utility := withOptions
    [flag 'a' "all", flag 's' "kernel-name", flag 'n' "nodename", flag 'r' "kernel-release",
     flag 'v', flag 'm' "machine", flag 'p', flag 'i', flag 'o' "operating-system"] fun _ o => do
  let parts := [("s", "Linux"), ("m", "x86_64"), ("o", "GNU/Linux")]
  let wanted := if o.given.isEmpty then ["s"]
    else ["s", "m", "o"].filter fun k => o.has k || o.has "a"
  sayLine (" ".intercalate (wanted.filterMap fun key => parts.lookup key))
  return 0

def workingDirectory : Utility := withOptions [flag 'L' "logical", flag 'P' "physical"] fun _ o => do
  let p ← get
  let logical := if o.last? ["L", "P"] = some "L" then Machine.lookup? p.environment "PWD" else none
  let fits (path : Bytes) : Bool := match p.world.files.status p.cwd (Bytes.toText path) with
    | .ok (place, .directory) => path.startsWith "/" && place = p.cwd
    | _ => false
  sayLine ((logical.filter fits).getD (Bytes.ofText p.cwd.toPath))
  return 0

/-- Wait, which takes no time here. -/
def sleep : Utility := withOptions [] fun name o => do
  let valid (s : Bytes) : Bool :=
    let cs := s.toList
    let body := match cs.getLast? with
      | some c => if ['s', 'm', 'h', 'd'].contains c then cs.dropLast else cs
      | none => cs
    s = "inf" || s = "infinity" ||
      ((decimal? (String.ofList body)).isSome && body.head? != some '-')
  match o.operands, o.operands.filter (!valid ·) with
  | [], _ => misuse name "missing operand"
  | _, [] => return 0
  | _, wrong =>
    for s in wrong do complain name ("invalid time interval " ++ quoted s)
    Machine.complain ("Try '" ++ name ++ " --help' for more information.")
    return 1

/-- A number in a base with leading zeros. -/
def inBase (base width n : Nat) : Bytes :=
  let digits := Nat.toDigits base n
  String.ofList (List.replicate (width - digits.length) '0' ++ digits)

/-- A byte as `od -c` shows it. -/
def shownChar (c : Char) : Bytes :=
  match c with
  | '\x00' => "\\0"
  | '\x07' => "\\a"
  | '\x08' => "\\b"
  | '\t' => "\\t"
  | '\n' => "\\n"
  | '\x0b' => "\\v"
  | '\x0c' => "\\f"
  | '\r' => "\\r"
  | c => if ' ' ≤ c && c ≤ '~' then c.toString else inBase 8 3 c.toNat

def od : Utility := withOptions
    [valued 'A' "address-radix", valued 't' "format", flag 'v', flag 'c', flag 'b', flag 'x',
     flag 'd', flag 'o', valued 'N' "read-bytes", valued 'j' "skip-bytes", valued 'w']
    fun name o => do
  let (texts, status) ← allContent name o.operands
  let all := (String.join texts).toList
  let all := all.drop (((o.value? "j").bind number?).getD 0)
  let all := match (o.value? "N").bind number? with
    | some n => all.take n
    | none => all
  let radix := (o.value? "A").getD "o"
  let address (n : Nat) : Bytes :=
    match radix with
    | "n" => ""
    | "d" => inBase 10 7 n
    | "x" => inBase 16 6 n
    | _ => inBase 8 7 n
  let format := if o.has "c" then "c" else if o.has "b" then "o1" else if o.has "x" then "x2"
    else if o.has "d" then "u2" else (o.value? "t").getD "o2"
  let one (c : Char) : Bytes :=
    match format with
    | "c" => padLeft 4 (shownChar c)
    | "x1" => " " ++ inBase 16 2 c.toNat
    | "u1" => padLeft 4 (toString c.toNat)
    | "d1" =>
      let n : Int := c.toNat
      let n := if n < 128 then n else n - 256
      padLeft 5 (toString n)
    | _ => " " ++ inBase 8 3 c.toNat
  let rec pairs : List Char → List Nat
    | a :: b :: rest => (a.toNat + 256 * b.toNat) :: pairs rest
    | [a] => [a.toNat]
    | [] => []
  let row (cs : List Char) : Bytes :=
    match format with
    | "o2" | "o" => String.join ((pairs cs).map fun n => " " ++ inBase 8 6 n)
    | "x2" | "x" => String.join ((pairs cs).map fun n => " " ++ inBase 16 4 n)
    | "u2" | "u" => String.join ((pairs cs).map fun n => padLeft 6 (toString n))
    | _ => String.join (cs.map one)
  let rec rows (before : List Char) (starred : Bool) (at' : Nat) : Nat → List Char → List Bytes
    | 0, _ => []
    | n + 1, cs =>
      if cs.isEmpty then []
      else
        let part := cs.take 16
        if part = before && part.length = 16 && !o.has "v" then
          (if starred then [] else ["*"]) ++ rows before true (at' + 16) n (cs.drop 16)
        else (address at' ++ row part) :: rows part false (at' + 16) n (cs.drop 16)
  for line in rows [] false 0 (all.length / 16 + 1) all do sayLine line
  if radix != "n" then sayLine (address all.length)
  return status

end DocLaunch.Tool
