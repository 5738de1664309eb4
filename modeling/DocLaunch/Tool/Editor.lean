import DocLaunch.Tool.Search

namespace DocLaunch.Tool

open Machine (Bytes Work)

namespace Editor

inductive Address where
  | line (n : Nat)
  | last
  | regex (r : Option Regex) (folded : Bool)
  /-- Every so many lines from one on. -/
  | step (first each : Nat)
  /-- The second end of a range that is so many lines long, or goes to a multiple. -/
  | further (n : Nat)
  | multiple (n : Nat)

inductive Part where
  | text (cs : List Char)
  | group (n : Nat)
  /-- Letters from here on, or just the next one, are changed: `L`, `U`, `E`, `l`, `u`. -/
  | letters (c : Char)

structure Substitution where
  regex? : Option Regex
  folded : Bool
  parts : List Part
  all : Bool
  number : Nat
  prints : Bool
  file? : Option Bytes

inductive Operation where
  | substitute (s : Substitution)
  | exchange (pairs : List (Char × Char))
  | text (kind : Char) (body : List Char)
  | leave (silent : Bool) (status : Nat)
  | label (name : String)
  | jump (kind : Char) (name : String)
  | opening (close : Nat)
  | file (kind : Char) (path : Bytes)
  | plain (c : Char)
  | nothing

structure Command where
  first? : Option Address := none
  second? : Option Address := none
  negated : Bool := false
  operation : Operation

abbrev Parsed (α : Type) := α × List Char

def isBlankOrEnd (c : Char) : Bool := c == ' ' || c == '\t' || c == '\n' || c == ';'

def skipBlanks (cs : List Char) : List Char := cs.dropWhile fun c => c == ' ' || c == '\t'

/-- Text up to a mark; a backslash before the mark is dropped, other escapes stay. -/
def upTo (mark : Char) (regex : Bool) : Nat → Bool → List Char → Option (List Char × List Char)
  | 0, _, _ => none
  | n + 1, inSet, cs =>
    match cs with
    | [] => none
    | '\\' :: c :: rest =>
      if inSet then (upTo mark regex n inSet (c :: rest)).map fun (t, rest) => ('\\' :: t, rest)
      else
        (upTo mark regex n inSet rest).map fun (t, rest) =>
          (if c = mark then c :: t
            else if c = 'n' && regex then '\n' :: t else '\\' :: c :: t, rest)
    | c :: rest =>
      if inSet then
        (upTo mark regex n (c != ']') rest).map fun (t, rest) => (c :: t, rest)
      else if c = mark then some ([], rest)
      else if c = '\n' && regex then none
      else if c = '[' && regex then
        -- a closing bracket at the start of a set is plain
        let front := match rest with
          | '^' :: ']' :: _ => ['^', ']']
          | ']' :: _ => [']']
          | '^' :: _ => ['^']
          | _ => []
        (upTo mark regex n true (rest.drop front.length)).map fun (t, rest) =>
          (c :: front ++ t, rest)
      else (upTo mark regex n inSet rest).map fun (t, rest) => (c :: t, rest)

def readRegex (kind : PatternKind) (cs : List Char) : Except Bytes (Option Regex) :=
  if cs.isEmpty then .ok none
  else
    match patternRegex? kind (String.ofList cs) with
    | some r => .ok (some r)
    | none => .error "Invalid regular expression"

def readAddress (kind : PatternKind) (cs : List Char) : Except Bytes (Parsed (Option Address)) := do
  let regex (mark : Char) (rest : List Char) : Except Bytes (Parsed (Option Address)) := do
    match upTo mark true (rest.length + 1) false rest with
    | none => .error "unterminated address regex"
    | some (text, rest) =>
      let (folded, rest) := match rest with
        | 'I' :: rest => (true, rest)
        | rest => (false, rest)
      return (some (.regex (← readRegex kind text) folded), rest)
  match cs with
  | '$' :: rest => return (some .last, rest)
  | '/' :: rest => regex '/' rest
  | '\\' :: mark :: rest => regex mark rest
  | c :: _ =>
    if c.isDigit then
      let digits := cs.takeWhile Char.isDigit
      let n := (number? (String.ofList digits)).getD 0
      match cs.drop digits.length with
      | '~' :: rest =>
        let step := rest.takeWhile Char.isDigit
        return (some (.step n ((number? (String.ofList step)).getD 0)), rest.drop step.length)
      | rest => return (some (.line n), rest)
    else return (none, cs)
  | [] => return (none, cs)

def readSecond (kind : PatternKind) (cs : List Char) : Except Bytes (Parsed (Option Address)) := do
  let counted (make : Nat → Address) (rest : List Char) : Except Bytes (Parsed (Option Address)) :=
    let digits := rest.takeWhile Char.isDigit
    match number? (String.ofList digits) with
    | some n => .ok (some (make n), rest.drop digits.length)
    | none => .error "unexpected ','"
  match cs with
  | '+' :: rest => counted .further rest
  | '~' :: rest => counted .multiple rest
  | _ =>
    let (a, rest) ← readAddress kind cs
    match a with
    | none => .error "unexpected ','"
    | some a => return (some a, rest)

/-- What is put in: text, groups and changes of letters. -/
def readParts : Nat → List Char → List Part
  | 0, _ => []
  | n + 1, cs =>
    match cs with
    | [] => []
    | '&' :: rest => .group 0 :: readParts n rest
    | '\\' :: c :: rest =>
      if c.isDigit then .group (c.toNat - '0'.toNat) :: readParts n rest
      else if ['L', 'U', 'E', 'l', 'u'].contains c then .letters c :: readParts n rest
      else
        let plain := match c with
          | 'n' => '\n'
          | 't' => '\t'
          | 'r' => '\r'
          | 'a' => '\x07'
          | 'f' => '\x0c'
          | 'v' => '\x0b'
          | c => c
        .text [plain] :: readParts n rest
    | c :: rest => .text [c] :: readParts n rest

def readFlags (s : Substitution) : Nat → List Char → Except Bytes (Parsed Substitution)
  | 0, cs => .ok (s, cs)
  | n + 1, cs =>
    match cs with
    | 'g' :: rest => readFlags { s with all := true } n rest
    | 'p' :: rest => readFlags { s with prints := true } n rest
    | 'i' :: rest | 'I' :: rest => readFlags { s with folded := true } n rest
    | 'm' :: rest | 'M' :: rest | 'e' :: rest => readFlags s n rest
    | 'w' :: rest =>
      let path := (skipBlanks rest).takeWhile (· != '\n')
      .ok ({ s with file? := some (String.ofList path) }, (skipBlanks rest).drop path.length)
    | c :: _ =>
      if c.isDigit then
        let digits := cs.takeWhile Char.isDigit
        match (number? (String.ofList digits)).getD 0 with
        | 0 => .error "number option to `s' command may not be zero"
        | k => readFlags { s with number := k } n (cs.drop digits.length)
      else if isBlankOrEnd c || c = '\x7d' || c = '#' then .ok (s, cs)
      else .error "unknown option to `s'"
    | [] => .ok (s, [])

/-- The text behind `a`, `i` or `c`, over lines that backslashes join. -/
def readBody (cs : List Char) : List Char × List Char :=
  let cs := skipBlanks cs
  let cs := match cs with
    | '\\' :: rest =>
      match skipBlanks rest with
      | '\n' :: rest => rest
      | _ => rest
    | cs => cs
  let rec go : List Char → List Char × List Char
    | [] => ([], [])
    | ['\\'] => ([], [])
    | '\\' :: c :: rest =>
      let (t, rest) := go rest
      (c :: t, rest)
    | '\n' :: rest => ([], rest)
    | c :: rest =>
      let (t, rest) := go rest
      (c :: t, rest)
  go cs

/-- What must follow a command. -/
def atEnd (cs : List Char) : Except Bytes (Parsed Unit) :=
  match skipBlanks cs with
  | [] => .ok ((), [])
  | '\n' :: rest | ';' :: rest => .ok ((), rest)
  | '\x7d' :: rest => .ok ((), '\x7d' :: rest)
  | '#' :: rest => .ok ((), '#' :: rest)
  | _ => .error "extra characters after command"

def readOperation (kind : PatternKind) (cs : List Char) : Except Bytes (Parsed Operation) := do
  match cs with
  | [] => .error "missing command"
  | c :: rest =>
    match c with
    | 's' =>
      match rest with
      | [] => .error "unterminated `s' command"
      | mark :: rest =>
        match upTo mark true (rest.length + 1) false rest with
        | none => .error "unterminated `s' command"
        | some (pattern, rest) =>
          match upTo mark false (rest.length + 1) false rest with
          | none => .error "unterminated `s' command"
          | some (body, rest) =>
            let s : Substitution := {
              regex? := ← readRegex kind pattern, folded := false
              parts := readParts (body.length + 1) body, all := false, number := 1, prints := false
              file? := none }
            let (s, rest) ← readFlags s (rest.length + 1) rest
            let ((), rest) ← atEnd rest
            return (.substitute s, rest)
    | 'y' =>
      match rest with
      | [] => .error "unterminated `y' command"
      | mark :: rest =>
        match upTo mark false (rest.length + 1) false rest with
        | none => .error "unterminated `y' command"
        | some (a, rest) =>
          match upTo mark false (rest.length + 1) false rest with
          | none => .error "unterminated `y' command"
          | some (b, rest) =>
            let plain (cs : List Char) : List Char := (readParts (cs.length + 1) cs).flatMap fun
              | .text t => t
              | .group _ => ['&']
              | .letters c => [c]
            let (a, b) := (plain a, plain b)
            if a.length != b.length then .error "strings for `y' command are different lengths"
            let ((), rest) ← atEnd rest
            return (.exchange (a.zip b), rest)
    | 'a' | 'i' | 'c' =>
      if (skipBlanks rest).isEmpty then .error ("expected \\ after `a', `c' or `i'")
      let (body, rest) := readBody rest
      return (.text c (body ++ ['\n']), rest)
    | 'q' | 'Q' =>
      let rest := skipBlanks rest
      let digits := rest.takeWhile Char.isDigit
      let ((), rest) ← atEnd (rest.drop digits.length)
      return (.leave (c = 'Q') ((number? (String.ofList digits)).getD 0), rest)
    | ':' =>
      let name := (skipBlanks rest).takeWhile fun c => !(c == '\n' || c == ';' || c == ' ')
      if name.isEmpty then .error "\":\" lacks a label"
      return (.label (String.ofList name), (skipBlanks rest).drop name.length)
    | 'b' | 't' | 'T' =>
      let rest := skipBlanks rest
      let name := rest.takeWhile fun c => !(isBlankOrEnd c || c == '\x7d')
      let ((), rest) ← atEnd (rest.drop name.length)
      return (.jump c (String.ofList name), rest)
    | '\x7b' => return (.opening 0, rest)
    | '\x7d' =>
      let ((), rest) ← atEnd rest
      return (.plain '\x7d', rest)
    | 'r' | 'w' =>
      let path := (skipBlanks rest).takeWhile (· != '\n')
      if path.isEmpty then .error "missing filename in r/R/w/W commands"
      return (.file c (String.ofList path), (skipBlanks rest).drop path.length)
    | '=' | 'd' | 'D' | 'p' | 'P' | 'n' | 'N' | 'h' | 'H' | 'g' | 'G' | 'x' | 'l' | 'z' =>
      let ((), rest) ← atEnd rest
      return (.plain c, rest)
    | c => .error ("unknown command: `" ++ c.toString ++ "'")

def readCommands (kind : PatternKind) (total : Nat) :
    Nat → List Char → Except (Bytes × Nat) (List Command)
  | 0, _ => .ok []
  | n + 1, cs => do
    let cs := cs.dropWhile isBlankOrEnd
    let place (cs : List Char) (text : Bytes) : Bytes × Nat := (text, total - cs.length)
    match cs with
    | [] => .ok []
    | '#' :: rest => readCommands kind total n (rest.dropWhile (· != '\n'))
    | _ =>
      let (first?, rest) ← (readAddress kind cs).mapError (place [])
      let rest := skipBlanks rest
      let (second?, rest) ← match first?, rest with
        | some _, ',' :: rest => (readSecond kind (skipBlanks rest)).mapError (place rest)
        | _, rest => .ok (none, rest)
      let rest := skipBlanks rest
      let bangs := rest.takeWhile (· == '!')
      let rest := skipBlanks (rest.drop bangs.length)
      let (operation, after) ← (readOperation kind rest).mapError (place (rest.drop 1))
      let more ← readCommands kind total n after
      return { first?, second?, negated := !bangs.isEmpty, operation } :: more

/-- Note for each opening brace where it is closed. -/
def closeBraces (cs : List Command) : Except Bytes (Array Command) := do
  let step (state : Array Command × List Nat) (c : Command) :
      Except Bytes (Array Command × List Nat) :=
    let (done, opened) := state
    match c.operation with
    | .opening _ => .ok (done.push c, done.size :: opened)
    | .plain '\x7d' =>
      match opened with
      | [] => .error "unexpected `\x7d'"
      | i :: opened =>
        let before := done[i]?.getD c
        let done := done.set! i { before with operation := .opening done.size }
        .ok (done.push { c with operation := .nothing }, opened)
    | _ => .ok (done.push c, opened)
  let (done, opened) ← cs.foldlM step (#[], [])
  if opened.isEmpty then .ok done else .error "unmatched `\x7b'"

structure State where
  space : List Char := []
  /-- Whether the line that was read had an end. -/
  ended : Bool := true
  hold : List Char := []
  line : Nat := 0
  rest : List (List Char × Bool)
  /-- The output, the last text first. -/
  output : List (List Char) := []
  /-- What comes behind the line: text, or the path of a file. -/
  after : List (Sum (List Char) Bytes) := []
  /-- For each command that has a range the line where it ends, if that is known. -/
  ranges : List (Nat × Option Nat) := []
  changed : Bool := false
  lastRegex? : Option Regex := none
  /-- What is written to other files. -/
  written : List (Bytes × List Char) := []
  deriving Inhabited

structure Style where
  quiet : Bool
  files : Bytes → List Char

namespace State

def put (s : State) (cs : List Char) : State := { s with output := cs :: s.output }

def putLine (s : State) (cs : List Char) : State :=
  s.put (cs ++ (if s.ended || !s.rest.isEmpty then ['\n'] else []))

def isLast (s : State) : Bool := s.rest.isEmpty

/-- What is left to do with a line when a round ends. -/
def finishLine (style : Style) (s : State) (shows : Bool) : State :=
  let s := if shows && !style.quiet then s.putLine s.space else s
  let s := s.after.reverse.foldl (fun s a =>
    let missing := match s.output with
      | cs :: _ => cs.getLast?.any (· != '\n')
      | [] => false
    let s := if missing then s.put ['\n'] else s
    match a with
    | .inl cs => s.put cs
    | .inr path => s.put (style.files path)) s
  { s with after := [] }

def next? (s : State) : Option State :=
  match s.rest with
  | [] => none
  | (cs, ended) :: rest => some { s with space := cs, ended, rest, line := s.line + 1 }

def fits (s : State) (r? : Option Regex) (folded : Bool) : Bool × State :=
  let r? := r?.or s.lastRegex?
  match r? with
  | none => (false, s)
  | some r =>
    let t : Regex.Subject := { chars := s.space.toArray, folded }
    ((r.searchLongest t 0).isSome, { s with lastRegex? := some r })

def addressed (s : State) : Address → Bool × State
  | .line n => (s.line = n, s)
  | .last => (s.isLast, s)
  | .regex r? folded => s.fits r? folded
  | .step first each =>
    (if each = 0 then s.line = first else first ≤ s.line && (s.line - first) % each = 0, s)
  | .further _ | .multiple _ => (false, s)

/-- Whether a command is for the line. -/
def selected (s : State) (i : Nat) (c : Command) : Bool × State :=
  match c.first?, c.second? with
  | none, _ => (true, s)
  | some a, none => s.addressed a
  | some a, some b =>
    let drop (s : State) : State := { s with ranges := s.ranges.filter (·.1 != i) }
    match s.ranges.lookup i with
    | some (some last) =>
      if s.line < last then (true, s)
      else if s.line = last then (true, drop s)
      else
        -- the range had ended before: the line may begin another
        let (begins, s) := (drop s).addressed a
        (begins, s)
    | some none =>
      let (ends, s) := s.addressed b
      (true, if ends then drop s else s)
    | none =>
      let zero : Bool := match a, b with
        | .line 0, .regex .. => s.line = 1
        | _, _ => false
      if zero then
        let (ends, s) := s.addressed b
        (true, if ends then s else { s with ranges := (i, none) :: s.ranges })
      else
        let (begins, s) := s.addressed a
        if !begins then (false, s)
        else
          let till (n : Nat) : Bool × State :=
            (true, if s.line < n then { s with ranges := (i, some n) :: s.ranges } else s)
          match b with
          | .line n => till n
          | .further n => till (s.line + n)
          | .multiple n => till (if n = 0 then s.line else (s.line + n - 1) / n * n)
          | .last => (true, if s.isLast then s else { s with ranges := (i, none) :: s.ranges })
          | _ => (true, { s with ranges := (i, none) :: s.ranges })

end State

def buildParts (t : Regex.Subject) (m : Regex.Found) (parts : List Part) : List Char :=
  let change (mode : Char) (once : Option Char) (cs : List Char) : List Char :=
    let cs := match mode with
      | 'L' => cs.map Char.toLower
      | 'U' => cs.map Char.toUpper
      | _ => cs
    match once, cs with
    | some 'l', c :: rest => c.toLower :: rest
    | some 'u', c :: rest => c.toUpper :: rest
    | _, cs => cs
  let (done, _, _) := parts.foldl (fun (done, mode, once) part =>
    let add (cs : List Char) :=
      (change mode once cs :: done, mode, if cs.isEmpty then once else none)
    match part with
    | .text cs => add cs
    | .group n => add (m.group t n)
    | .letters c =>
      if c = 'l' || c = 'u' then (done, mode, some c) else (done, c, once))
    (([] : List (List Char)), 'E', (none : Option Char))
  done.reverse.flatten

/-- Replace places in a text from a position on; the count is that of the places so far. -/
def replaceFrom (s : Substitution) (r : Regex) (t : Regex.Subject) :
    Nat → Nat → Nat → Option Nat → List Char × Bool
  | 0, start, _, _ => (t.slice start t.size, false)
  | n + 1, start, count, before =>
    match r.searchLongest t start with
    | none => (t.slice start t.size, false)
    | some m =>
      -- an empty place right behind another one does not count
      if m.start = m.stop && before = some m.start then
        if m.start < t.size then
          let (rest, done) := replaceFrom s r t n (m.start + 1) count none
          (t.slice start (m.start + 1) ++ rest, done)
        else (t.slice start t.size, false)
      else
        let replaces := s.number ≤ count + 1
        let here := if replaces then buildParts t m s.parts else t.slice m.start m.stop
        let front := t.slice start m.start ++ here
        if replaces && !s.all then (front ++ t.slice m.stop t.size, true)
        else if m.start = m.stop then
          if m.start < t.size then
            let (rest, done) := replaceFrom s r t n (m.start + 1) (count + 1) none
            (front ++ t.slice m.start (m.start + 1) ++ rest, done || replaces)
          else (front, replaces)
        else
          let (rest, done) := replaceFrom s r t n m.stop (count + 1) (some m.stop)
          (front ++ rest, done || replaces)

/-- The line as `l` shows it. -/
def unambiguous (cs : List Char) : List Char :=
  let shown := cs.map fun c =>
    match c with
    | '\\' => ['\\', '\\']
    | '\t' => ['\\', 't']
    | '\n' => ['\\', 'n']
    | '\r' => ['\\', 'r']
    | c => if ' ' ≤ c && c ≤ '~' then [c] else ('\\' :: (inBase 8 3 c.toNat).toList)
  let (rows, row) := shown.foldl (fun (rows, row) (piece : List Char) =>
    if 69 < row.length + piece.length then (rows ++ row ++ ['\\', '\n'], piece)
    else (rows, row ++ piece)) (([] : List Char), ([] : List Char))
  rows ++ row ++ ['$', '\n']

/-- How the commands for a line go on. -/
inductive Step where
  | next
  | goTo (i : Nat)
  /-- The round is over; the line is shown unless it was taken away. -/
  | over (shows : Bool)
  /-- Start again without a new line. -/
  | restart
  | left (status : Nat) (shows : Bool)

def labelPlace (program : Array Command) (name : String) : Nat :=
  if name.isEmpty then program.size
  else
    (program.toList.findIdx? fun c => match c.operation with
      | .label l => l == name
      | _ => false).getD program.size

def runOperation (style : Style) (program : Array Command) (c : Command) (i : Nat) (s : State) :
    Step × State :=
  match c.operation with
  | .nothing | .label _ => (.next, s)
  | .opening _ => (.next, s)
  | .substitute sub =>
    match sub.regex?.or s.lastRegex? with
    | none => (.next, s)
    | some r =>
      let t : Regex.Subject := { chars := s.space.toArray, folded := sub.folded }
      let (space, changed) := replaceFrom sub r t (t.size + 2) 0 0 none
      let s := { s with lastRegex? := some r }
      if changed then
        let s := { s with space, changed := true }
        let s := if sub.prints then s.putLine space else s
        let s := match sub.file? with
          | some path => { s with written := (path, space ++ ['\n']) :: s.written }
          | none => s
        (.next, s)
      else (.next, s)
  | .exchange pairs =>
    (.next, { s with space := s.space.map fun c => (pairs.lookup c).getD c })
  | .text 'a' body => (.next, { s with after := .inl body :: s.after })
  | .text 'i' body => (.next, s.put body)
  | .text _ body =>
    let inside := !c.negated && (s.ranges.lookup i).isSome
    (.over false, if inside then s else s.put body)
  | .leave silent status => (.left status (!silent), s)
  | .jump kind name =>
    let target := labelPlace program name
    match kind with
    | 'b' => (.goTo target, s)
    | 't' => if s.changed then (.goTo target, { s with changed := false }) else (.next, s)
    | _ => if s.changed then (.next, { s with changed := false }) else (.goTo target, s)
  | .file 'r' path => (.next, { s with after := .inr path :: s.after })
  | .file _ path => (.next, { s with written := (path, s.space ++ ['\n']) :: s.written })
  | .plain c =>
    match c with
    | '=' => (.next, s.put ((toString s.line).toList ++ ['\n']))
    | 'd' => (.over false, s)
    | 'D' =>
      if s.space.contains '\n' then
        (.restart, { s with space := (s.space.dropWhile (· != '\n')).drop 1 })
      else (.over false, s)
    | 'p' => (.next, s.putLine s.space)
    | 'P' => (.next, s.put (s.space.takeWhile (· != '\n') ++ ['\n']))
    | 'n' =>
      if s.isLast then (.left 0 true, s)
      else
        let s := s.finishLine style true
        (.next, s.next?.getD s)
    | 'N' =>
      if s.isLast then (.left 0 true, s)
      else
        let t := s.finishLine { style with quiet := true } false
        match t.next? with
        | some u => (.next, { u with space := s.space ++ '\n' :: u.space })
        | none => (.next, s)
    | 'h' => (.next, { s with hold := s.space })
    | 'H' => (.next, { s with hold := s.hold ++ '\n' :: s.space })
    | 'g' => (.next, { s with space := s.hold })
    | 'G' => (.next, { s with space := s.space ++ '\n' :: s.hold })
    | 'x' => (.next, { s with space := s.hold, hold := s.space })
    | 'l' => (.next, s.put (unambiguous s.space))
    | 'z' => (.next, { s with space := [] })
    | _ => (.next, s)

/-- Run the commands for one line, from a command on. -/
def runLine (style : Style) (program : Array Command) : Nat → Nat → State → Step × State
  | 0, _, s => (.over true, s)
  | n + 1, i, s =>
    match program[i]? with
    | none => (.over true, s)
    | some c =>
      let (chosen, s) := s.selected i c
      if chosen = c.negated then
        let next := match c.operation with
          | .opening close => close
          | _ => i
        runLine style program n (next + 1) s
      else
        match runOperation style program c i s with
        | (.next, s) => runLine style program n (i + 1) s
        | (.goTo k, s) => runLine style program n k s
        | result => result

/-- Run the commands for every line; the status in the end. -/
def runLines (style : Style) (program : Array Command) : Nat → Bool → State → Nat × State
  | 0, _, s => (0, s)
  | n + 1, fresh, s =>
    let started := if fresh then s.next?.map fun s => { s with changed := false } else some s
    match started with
    | none => (0, s)
    | some s =>
      match runLine style program 1000000 0 s with
      | (.left status shows, s) =>
        (status, s.finishLine style shows)
      | (.restart, s) => runLines style program n false (s.finishLine style false)
      | (.over shows, s) => runLines style program n true (s.finishLine style shows)
      | (_, s) => runLines style program n true s

end Editor

def editorRules : List OptionRule :=
  [flag 'n' "quiet", named "silent", valued 'e' "expression", valued 'f' "file",
   flag 'E' "regexp-extended", flag 'r', ⟨some 'i', "in-place", .optional⟩, flag 's' "separate",
   flag 'u' "unbuffered", flag 'z', named "posix", named "debug", valued 'l' "line-length"]

def editorUsage (name : Bytes) : Work Nat := do
  let arguments := "[OPTION]... \x7bscript-only-if-no-other-script\x7d [input-file]..."
  Machine.complain ("Usage: " ++ name ++ " " ++ arguments)
  return 1

/-- Put text into a file, which is made anew. -/
def writeFile (path text : Bytes) : Work (Except SystemFault Unit) := do
  match ← Machine.openPath path .create with
  | .error e => return .error e
  | .ok channel =>
    let before := (← get).descriptors
    Machine.connect 20 channel
    let result ← Machine.write 20 text
    modify fun p => { p with descriptors := before }
    return result

def sed : Utility := fun name args =>
  match Options.read editorRules true args with
  | .error text => do
    complain name text
    editorUsage name
  | .ok o => do
    let given ← o.given.filterMapM fun (key, value?) => do
      match key, value? with
      | "e", some text => return some text
      | "f", some path => return some ((← contentOf path).toOption.getD "")
      | _, _ => return none
    let (scripts, paths) := if given.isEmpty then (o.operands.take 1, o.operands.drop 1)
      else (given, o.operands)
    if scripts.isEmpty then return ← editorUsage name
    let script := "\n".intercalate scripts
    let kind : PatternKind := if o.has "E" || o.has "r" then .extended else .basic
    let cs := script.toList
    let program := (Editor.readCommands kind cs.length (cs.length + 1) cs).bind fun commands =>
      (Editor.closeBraces commands).mapError fun text => (text, 0)
    match program with
    | .error (text, place) =>
      fail name ("-e expression #1, char " ++ toString place ++ ": " ++ text)
    | .ok program =>
      let p ← get
      let style : Editor.Style := {
        quiet := o.has "n" || o.has "silent" || script.startsWith "#n\n"
        files := fun path => match p.world.files.readBytes p.cwd (Bytes.toText path) with
          | .ok content => (Bytes.ofByteArray content).toList
          | .error _ => [] }
      let inputOf (text : Bytes) : List (List Char × Bool) :=
        let (lines, ended) := splitLines '\n' text
        let last := lines.length - 1
        lines.zipIdx.map fun (line, i) => (line, ended || i < last)
      let mut status := 0
      let mut inputs : List (Bytes × Bytes) := []
      for path in (if paths.isEmpty then ["-"] else paths) do
        match ← contentOf path with
        | .ok text => inputs := (path, text) :: inputs
        | .error e =>
          let text := if e = .isDirectory then
              (if o.has "i" then "couldn't edit " ++ path ++ ": not a regular file"
                else "read error on " ++ path ++ ": Is a directory")
            else "can't read " ++ path ++ ": " ++ Machine.reason e
          complain name text
          status := if o.has "i" && e = .isDirectory then 4 else 2
      let run (lines : List (List Char × Bool)) : Nat × Editor.State :=
        Editor.runLines style program (1000 * lines.length + 10000) true { rest := lines }
      let finish (s : Editor.State) : Work Unit := do
        let files := (s.written.map Prod.fst).eraseDups
        for path in files do
          let text := String.ofList ((s.written.reverse.filter (·.1 == path)).flatMap Prod.snd)
          if path = "/dev/stdout" then say text else
            let _ ← writeFile path text
      if o.has "i" then
        for (path, text) in inputs.reverse do
          let (result, s) := run (inputOf text)
          if let some suffix := o.value? "i" then
            let _ ← writeFile (if suffix.toList.contains '*' then suffix.replace "*" path
              else path ++ suffix) text
          let _ ← writeFile path (String.ofList s.output.reverse.flatten)
          finish s
          if result != 0 then status := result
      else
        let lines := inputs.reverse.map fun e => inputOf e.2
        for part in (if o.has "s" then lines else [lines.flatten]) do
          let (result, s) := run part
          say (String.ofList s.output.reverse.flatten)
          finish s
          if inputs.map Prod.fst = ["-"] then
            giveBack "-" false (String.ofList (s.rest.flatMap fun (line, ended) =>
              if ended then line ++ ['\n'] else line))
          if result != 0 then status := result
      return status

end DocLaunch.Tool
