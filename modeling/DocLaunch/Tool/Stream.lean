import DocLaunch.Tool.Basic

namespace DocLaunch.Tool

open Machine (Bytes Work)

def padLeft (n : Nat) (s : Bytes) : Bytes :=
  String.ofList (List.replicate (n - s.length) ' ') ++ s

/-- A byte as it is shown by what can be seen. -/
def visibly (c : Char) : List Char :=
  if c = '\n' || c = '\t' then [c]
  else
    let low (n : Nat) : List Char :=
      if n < 32 then ['^', Char.ofNat (n + 64)]
      else if n = 127 then ['^', '?'] else [Char.ofNat n]
    if c.toNat < 128 then low c.toNat else 'M' :: '-' :: low (c.toNat - 128)

/-- How lines are shown by `cat`. -/
structure CatStyle where
  numbers : Bool
  onlyFull : Bool
  squeeze : Bool
  ends : Bool
  tabs : Bool
  visible : Bool

/-- Lines in a style. The number of the next line and whether the one before was empty go along. -/
def CatStyle.show (style : CatStyle) (text : Bytes) (start : Nat × Bool) : Bytes × Nat × Bool :=
  let (lines, ended) := splitLines '\n' text
  let last := lines.length - 1
  let (parts, number, blank) := lines.zipIdx.foldl (fun (parts, number, blank) (line, i) =>
    if style.squeeze && line.isEmpty && blank then (parts, number, true)
    else
      let counted := (style.numbers && !style.onlyFull) || (style.onlyFull && !line.isEmpty)
      let front := if counted then (padLeft 6 (toString number) ++ "\t").toList else []
      let body := line.flatMap fun c =>
        if c = '\t' && style.tabs then ['^', 'I']
        else if style.visible then visibly c else [c]
      let hasEnd := ended || i < last
      let tail := if hasEnd then (if style.ends then ['$', '\n'] else ['\n']) else []
      ((front ++ body ++ tail) :: parts, if counted then number + 1 else number, line.isEmpty))
    ([], start)
  (String.ofList parts.reverse.flatten, number, blank)

def cat : Utility := withOptions
    [flag 'A' "show-all", flag 'b' "number-nonblank", flag 'e', flag 'E' "show-ends",
     flag 'n' "number", flag 's' "squeeze-blank", flag 't', flag 'T' "show-tabs", flag 'u',
     flag 'v' "show-nonprinting"] fun name o => do
  let some' (keys : List String) : Bool := keys.any o.has
  let style : CatStyle := {
    numbers := some' ["n", "b"], onlyFull := o.has "b", squeeze := o.has "s"
    ends := some' ["A", "e", "E"], tabs := some' ["A", "t", "T"]
    visible := some' ["A", "e", "t", "v"] }
  let mut status := 0
  let mut place := (1, false)
  for path in (if o.operands.isEmpty then ["-"] else o.operands) do
    match ← contentOf path with
    | .ok text =>
      if o.given.isEmpty then say text
      else
        let (shown, next) := style.show text place
        place := next
        say shown
    | .error e =>
      complain name (quotedIfNeeded path ++ ": " ++ Machine.reason e)
      status := 1
  return status

def size? (text : List Char) : Option Nat := do
  let digits := text.takeWhile Char.isDigit
  let n ← number? (String.ofList digits)
  match String.ofList (text.drop digits.length) with
  | "" => some n
  | "b" => some (512 * n)
  | "k" | "K" | "KiB" => some (1024 * n)
  | "kB" | "KB" => some (1000 * n)
  | "M" | "MiB" | "m" => some (1048576 * n)
  | "MB" => some (1000000 * n)
  | _ => none

/-- Old options such as `-5` become `-n5`. -/
def modernize (args : List Bytes) : List Bytes :=
  match args with
  | first :: rest =>
    match first.toList with
    | '-' :: c :: cs =>
      if (c :: cs).all Char.isDigit then ("-n" ++ String.ofList (c :: cs)) :: rest else args
    | _ => args
  | [] => []

def withTitles (o : Options) (use : Bytes → Bytes → Work Unit) (name : Bytes) : Work Nat := do
  let titled := !o.has "q" && (o.has "v" || 1 < o.operands.length)
  let mut first := true
  let mut status := 0
  for path in (if o.operands.isEmpty then ["-"] else o.operands) do
    match ← contentOf path with
    | .ok text =>
      if titled then
        let shown := if path = "-" then "standard input" else path
        say ((if first then "" else "\n") ++ "==> " ++ shown ++ " <==\n")
      first := false
      use path text
    | .error e =>
      if e = .isDirectory then
        complain name ("error reading " ++ quoted path ++ ": " ++ Machine.reason e)
      else
        complain name ("cannot open " ++ quoted path ++ " for reading: " ++ Machine.reason e)
      status := 1
  return status

/-- The first or last so many lines or bytes of a text, or all but those. -/
def cutText (byBytes : Bool) (cut : {α : Type} → List α → List α) (text : Bytes) (keepsEnd : Bool) :
    Bytes :=
  if byBytes then String.ofList (cut text.toList)
  else
    let (lines, ended) := splitLines '\n' text
    let kept := cut lines
    joinLines kept (ended || (!keepsEnd && kept.length < lines.length))

def head : Utility := fun name args =>
  withOptions [valued 'c' "bytes", valued 'n' "lines", flag 'q' "quiet", flag 'v' "verbose",
      flag 'z' "zero-terminated"] (fun name o => do
    let byBytes := o.last? ["c", "n"] = some "c"
    let given := (o.value? (if byBytes then "c" else "n")).getD "10"
    let (negative, digits) := match given.toList with
      | '-' :: rest => (true, rest)
      | rest => (false, rest)
    match size? digits with
    | none =>
      let what := if byBytes then "bytes" else "lines"
      fail name ("invalid number of " ++ what ++ ": " ++ quoted given)
    | some n =>
      let cut {α : Type} (l : List α) : List α :=
        if negative then l.take (l.length - n) else l.take n
      withTitles o (fun path text => do
        let shown := cutText byBytes cut text false
        say shown
        giveBack path (byBytes && !negative) (text.drop shown.length).toString) name) true 1
    name (modernize args)

def tail : Utility := fun name args =>
  let args := match args with
    | first :: rest =>
      match first.toList with
      | '+' :: c :: cs =>
        if (c :: cs).all Char.isDigit then ("-n+" ++ String.ofList (c :: cs)) :: rest else args
      | _ => args
    | [] => []
  withOptions [valued 'c' "bytes", valued 'n' "lines", flag 'q' "quiet", flag 'v' "verbose",
      flag 'f', flag 'F', flag 'z' "zero-terminated"] (fun name o => do
    let byBytes := o.last? ["c", "n"] = some "c"
    let given := (o.value? (if byBytes then "c" else "n")).getD "10"
    let (fromStart, digits) := match given.toList with
      | '+' :: rest => (true, rest)
      | '-' :: rest => (false, rest)
      | rest => (false, rest)
    match size? digits with
    | none =>
      let what := if byBytes then "bytes" else "lines"
      fail name ("invalid number of " ++ what ++ ": " ++ quoted given)
    | some n =>
      let cut {α : Type} (l : List α) : List α :=
        if fromStart then l.drop (n - 1) else l.drop (l.length - n)
      withTitles o (fun _ text => say (cutText byBytes cut text true)) name) true 1
    name (modernize args)

/-- What is counted in a text: lines, words, characters, bytes, and the longest line. -/
def counts (text : Bytes) : List Nat :=
  let cs := text.toList
  let isSpace (c : Char) : Bool := c == ' ' || ('\t' ≤ c && c ≤ '\r')
  let lines := cs.count '\n'
  let (words, _) := cs.foldl (fun (n, inside) c =>
    if isSpace c then (n, false) else if inside then (n, true) else (n + 1, true)) (0, false)
  let longest := (linesOf text).foldl (fun n l => max n l.length) 0
  [lines, words, cs.length, cs.length, longest]

def wc : Utility := withOptions
    [flag 'c' "bytes", flag 'm' "chars", flag 'l' "lines", flag 'w' "words",
     flag 'L' "max-line-length"] fun name o => do
  let letters := ["l", "w", "m", "c", "L"]
  let wanted := if o.given.isEmpty then ["l", "w", "c"] else letters.filter o.has
  let pick (ns : List Nat) : List Nat :=
    ((letters.zip ns).filter fun e => wanted.contains e.1).map Prod.snd
  let mut status := 0
  let mut sizes := 0
  let mut least := 1
  let paths := if o.operands.isEmpty then ["-"] else o.operands
  let mut outcomes : List (Bytes × Except SystemFault Bytes) := []
  for path in paths do
    let regular ← if path = "-" then do
        match ← Machine.channelOf? 0 with
        | some (_, .file ..) => pure true
        | _ => pure false
      else pure true
    let outcome ← contentOf path
    outcomes := (path, outcome) :: outcomes
    match outcome with
    | .ok text => if regular then sizes := sizes + text.length else least := 7
    | .error e => if e = .isDirectory then least := 7
  let single := paths.length = 1 && wanted.length = 1
  let width := if single then 1 else max least (toString sizes).length
  let row (ns : List Nat) (path : Option Bytes) : Bytes :=
    " ".intercalate (ns.map fun n => padLeft width (toString n)) ++
      (match path with
        | some p => " " ++ p
        | none => "") ++ "\n"
  let mut total := [0, 0, 0, 0, 0]
  for (path, outcome) in outcomes.reverse do
    match outcome with
    | .ok text =>
      let ns := counts text
      say (row (pick ns) (if o.operands.isEmpty then none else some path))
      total := match total, ns with
        | [a, b, c, d, e], [a', b', c', d', e'] => [a + a', b + b', c + c', d + d', max e e']
        | total, _ => total
    | .error e =>
      complain name (quotedIfNeeded path ++ ": " ++ Machine.reason e)
      if e = .isDirectory then say (row (pick [0, 0, 0, 0, 0]) (some path))
      status := 1
  if 1 < paths.length then say (row (pick total) (some "total"))
  return status

def tac : Utility := withOptions [flag 'b' "before", flag 'r' "regex", valued 's' "separator"]
    fun name o =>
  eachContent name o.operands fun _ text => do
    let (lines, ended) := splitLines '\n' text
    if ended then sayLines lines.reverse
    else
      match lines.reverse with
      | [] => return
      | last :: rest =>
        say (String.ofList last)
        sayLines rest

def rev : Utility := withOptions [] fun name o =>
  eachContent name o.operands fun _ text => do
    let (lines, ended) := splitLines '\n' text
    say (joinLines (lines.map List.reverse) ended)

def nl : Utility := withOptions
    [valued 'b' "body-numbering", valued 's' "number-separator", valued 'w' "number-width",
     valued 'v' "starting-line-number", valued 'i' "line-increment", valued 'n' "number-format"]
    fun name o => do
  let (texts, status) ← allContent name o.operands
  let style := (o.value? "b").getD "t"
  let between := (o.value? "s").getD "\t"
  let width := ((o.value? "w").bind number?).getD 6
  let step := ((o.value? "i").bind number?).getD 1
  let start := ((o.value? "v").bind number?).getD 1
  let (shown, _) := (linesOf (String.join texts)).foldl (fun (done, n) line =>
    if style = "a" || (style = "t" && !line.isEmpty) then
      let number := toString n
      let fill (c : Char) : String := String.ofList (List.replicate (width - number.length) c)
      let text := match (o.value? "n").getD "rn" with
        | "ln" => number ++ fill ' '
        | "rz" => fill '0' ++ number
        | _ => fill ' ' ++ number
      (((text ++ between).toList ++ line) :: done, n + step)
    else ((List.replicate (width + between.length) ' ' ++ line) :: done, n)) ([], start)
  sayLines shown.reverse
  return status

def tee : Utility := withOptions [flag 'a' "append", flag 'i', flag 'p'] fun name o => do
  let text := (← Machine.readAll 0).toOption.getD ""
  let mut status := 0
  for path in o.operands do
    match ← Machine.openPath path (if o.has "a" then .extend else .create) with
    | .ok channel =>
      let before := (← get).descriptors
      Machine.connect 20 channel
      let _ ← Machine.write 20 text
      modify fun p => { p with descriptors := before }
    | .error e =>
      complain name (quotedIfNeeded path ++ ": " ++ Machine.reason e)
      status := 1
  say text
  return status

/-- Write a line again and again, until nobody reads it. -/
def yes : Utility := withOptions [] fun _ o => do
  let line := " ".intercalate (if o.operands.isEmpty then ["y"] else o.operands) ++ "\n"
  let block := String.join (List.replicate 1000 line)
  let rec go : Nat → Work Unit
    | 0 => return
    | n + 1 => do
      match ← Machine.write 1 block with
      | .ok _ => go n
      | .error _ => say line
  go 100000
  return 1

def fold : Utility := withOptions [flag 'b', flag 's' "spaces", valued 'w' "width"] fun name o =>
  let width := max 1 (((o.value? "w").bind number?).getD 80)
  let rec split : Nat → List Char → List (List Char)
    | 0, cs => [cs]
    | n + 1, cs =>
      if cs.length ≤ width then [cs]
      else
        let piece := cs.take width
        let blank := (piece.reverse.dropWhile (· != ' ')).reverse
        let piece := if o.has "s" && !blank.isEmpty then blank else piece
        piece :: split n (cs.drop piece.length)
  eachContent name o.operands fun _ text => do
    let (lines, ended) := splitLines '\n' text
    say (joinLines (lines.flatMap fun l => split l.length l) ended)

end DocLaunch.Tool
