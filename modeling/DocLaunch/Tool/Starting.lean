import DocLaunch.Machine.Signal
import DocLaunch.Shell.Pattern
import DocLaunch.Tool.Editor

namespace DocLaunch.Tool

open Machine (Bytes Launch Loaded Work)

/-- A tool that may start programs and tells how it ends. -/
abbrev Starter := Launch → Bytes → List Bytes → Work WaitStatus

def findCommand (args : List Bytes) : Work (Except SystemFault Loaded) := do
  let p ← get
  return Machine.resolve p.world.files p.cwd (Machine.lookup? p.environment "PATH")
    Machine.shellFallback (args.headD "") (args.drop 1)

/-- The status for a program that could not be run. -/
def refusalStatus (e : SystemFault) : Nat := if e = .notFound then 127 else 126

def become (launch : Launch) (name : Bytes) (complaint : Bytes → Bytes) (args : List Bytes) :
    Work WaitStatus := do
  match ← findCommand args with
  | .ok loaded => launch loaded
  | .error e =>
    complain name (complaint (args.headD "") ++ ": " ++ Machine.reason e)
    return .exited (refusalStatus e)

def runCommand (launch : Launch) (args : List Bytes) : Work (Except SystemFault WaitStatus) := do
  match ← findCommand args with
  | .error e => return .error e
  | .ok loaded =>
    let _ ← Machine.flush
    return .ok (← Machine.forked (launch loaded))

/-- What a backslash and a character stand for in a text that `env -S` splits. -/
inductive SplitEscape where
  | char (c : Char)
  | gap
  | stop

def splitEscape (quoted : Bool) (c : Char) : Except Bytes SplitEscape :=
  match c with
  | 'f' => .ok (.char '\x0c')
  | 'n' => .ok (.char '\n')
  | 'r' => .ok (.char '\r')
  | 't' => .ok (.char '\t')
  | 'v' => .ok (.char '\x0b')
  | '_' => .ok (if quoted then .char ' ' else .gap)
  | 'c' =>
    if quoted then .error "'\\c' must not appear in double-quoted -S string" else .ok .stop
  | c =>
    if ['"', '\'', '\\', '$', '#'].contains c then .ok (.char c)
    else .error ("invalid sequence '\\" ++ c.toString ++ "' in -S")

/-- Words of a text with quotes, as `env -S` splits them; variables in braces are put in. -/
def splitWords (environment : List Bytes) :
    Nat → Option (List Char) → Option Char → List Char → Except Bytes (List Bytes)
  | 0, _, _, _ => .error "text too long"
  | n + 1, word?, quote?, cs =>
    let add (c : List Char) (rest : List Char) : Except Bytes (List Bytes) :=
      splitWords environment n (some (c.reverse ++ word?.getD [])) quote? rest
    let finish : List Bytes := match word? with
      | some w => [String.ofList w.reverse]
      | none => []
    let cut (rest : List Char) : Except Bytes (List Bytes) :=
      (splitWords environment n none none rest).map (finish ++ ·)
    match cs with
    | [] => if quote?.isSome then .error "no terminating quote in -S string" else .ok finish
    | c :: rest =>
      let bare := quote?.isNone
      if some c = quote? then splitWords environment n word? none rest
      else if quote? = some '\'' then
        match cs with
        | '\\' :: d :: more => if d = '\\' || d = '\'' then add [d] more else add [c] rest
        | _ => add [c] rest
      else if bare && (c = '"' || c = '\'') then
        splitWords environment n (some (word?.getD [])) (some c) rest
      else if bare && (c = ' ' || ('\t' ≤ c && c ≤ '\r')) then cut rest
      else if bare && c = '#' && word?.isNone then .ok []
      else if c = '\\' then
        match rest with
        | [] => .error "invalid backslash at end of string in -S"
        | d :: more =>
          match splitEscape (!bare) d with
          | .error text => .error text
          | .ok (.char c) => add [c] more
          | .ok .gap => cut more
          | .ok .stop => .ok finish
      else if c = '$' then
        match rest with
        | '\x7b' :: more =>
          let name := more.takeWhile (· != '\x7d')
          let value := (Machine.lookup? environment (String.ofList name)).getD ""
          add value.toList (more.drop (name.length + 1))
        | _ => .error "only $\x7bVARNAME\x7d expansion is supported, error at: "
      else add [c] rest

def setVariable (environment : List Bytes) (entry : Bytes) : List Bytes :=
  let name := (entry.toList.takeWhile (· != '='))
  let front := String.ofList (name ++ ['='])
  match environment.findIdx? (·.startsWith front) with
  | some i => environment.set i entry
  | none => environment ++ [entry]

def envRules : List OptionRule :=
  [flag 'i' "ignore-environment", valued 'u' "unset", flag '0' "null", valued 'C' "chdir",
   valued 'S' "split-string", flag 'v' "debug", named "default-signal" .optional,
   named "ignore-signal" .optional, named "block-signal" .optional]

/-- Put the words of `-S` in for it. -/
def expandSplits (environment : List Bytes) : Nat → List Bytes → Except Bytes (List Bytes)
  | 0, args => .ok args
  | n + 1, args =>
    match args with
    | [] => .ok []
    | arg :: rest => do
      let words (text : List Char) (front : List Bytes) (rest : List Bytes) := do
        let ws ← splitWords environment (2 * text.length + 2) none none text
        expandSplits environment n (front ++ ws ++ rest)
      match arg.toList, rest with
      | ['-', 'S'], text :: rest => words text.toList [] rest
      | '-' :: 'S' :: text, rest => words text [] rest
      | '-' :: 'v' :: 'S' :: text, rest => words text ["-v"] rest
      | '-' :: 'i' :: 'S' :: text, rest => words text ["-i"] rest
      | ['-', 'u'], name :: rest => return "-u" :: name :: (← expandSplits environment n rest)
      | ['-', 'C'], dir :: rest => return "-C" :: dir :: (← expandSplits environment n rest)
      | ['-', '-'], _ => .ok args
      | '-' :: '-' :: long, rest =>
        if (String.ofList long).startsWith "split-string=" then words (long.drop 13) [] rest
        else return arg :: (← expandSplits environment n rest)
      | '-' :: _ :: _, rest => return arg :: (← expandSplits environment n rest)
      | _, _ => .ok args

def env : Starter := fun launch name args => do
  let stop (text : Bytes) : Work WaitStatus := do
    let status ← misuse name text 125
    finish name status
  let environment := (← get).environment
  match expandSplits environment 20 args with
  | .error text =>
    complain name text
    finish name 125
  | .ok args =>
    match Options.read envRules false args with
    | .error text =>
      let blanks := args.any fun a => a.startsWith "-" && a.toList.contains ' '
      if blanks then
        complain name text
        Machine.complain (name ++ ": use -[v]S to pass options in shebang lines")
        Machine.complain ("Try '" ++ name ++ " --help' for more information.")
        finish name 125
      else stop text
    | .ok o =>
      let (clears, operands) := match o.operands with
        | "-" :: rest => (true, rest)
        | operands => (o.has "i", operands)
      let before := if clears then [] else environment
      let wrong := (o.values "u").find? fun n => n.isEmpty || n.toList.contains '='
      if let some n := wrong then
        complain name ("cannot unset " ++ quoted n ++ ": Invalid argument")
        return ← finish name 125
      let kept := before.filter fun e =>
        !(o.values "u").any fun n => e.startsWith (n ++ "=")
      let settings := operands.takeWhile fun a => a.toList.contains '='
      let command := operands.drop settings.length
      let environment := settings.foldl setVariable kept
      modify fun p => { p with environment }
      if let some dir := o.value? "C" then
        let p ← get
        match p.world.files.status p.cwd (Bytes.toText dir) with
        | .ok (place, .directory) => set { p with cwd := place }
        | .ok _ =>
          complain name ("cannot change directory to " ++ quoted dir ++ ": Not a directory")
          return ← finish name 125
        | .error e =>
          complain name ("cannot change directory to " ++ quoted dir ++ ": " ++ Machine.reason e)
          return ← finish name 125
      if command.isEmpty then
        for entry in environment do say (entry ++ (if o.has "0" then "\x00" else "\n"))
        finish name 0
      else
        match ← findCommand command with
        | .ok loaded => launch loaded
        | .error e =>
          let shown := command.headD ""
          complain name (quoted shown ++ ": " ++ Machine.reason e)
          if e = .notFound && shown.toList.contains ' ' then
            Machine.complain (name ++ ": use -[v]S to pass options in shebang lines")
          finish name (refusalStatus e)

def readArguments (mark? : Option Char) (byLines : Bool) (text : List Char) :
    Except Bytes (List (List Bytes)) :=
  match mark? with
  | some mark =>
    let parts := splitAt mark text
    let parts := if parts.getLast? = some [] then parts.dropLast else parts
    .ok (parts.map fun p => [String.ofList p])
  | none =>
    let isSpace (c : Char) : Bool := c == ' ' || c == '\t'
    let rec go (done : List (List Bytes)) (row : List Bytes) (word? : Option (List Char))
        (quote? : Option Char) : List Char → Except Bytes (List (List Bytes))
      | [] =>
        match quote? with
        | some q =>
          let kind := if q = '"' then "double" else "single"
          .error ("unmatched " ++ kind ++
            " quote; by default quotes are special to xargs unless you use the -0 option")
        | none =>
          let row := match word? with
            | some w => String.ofList w.reverse :: row
            | none => row
          .ok (if row.isEmpty then done else row.reverse :: done).reverse
      | '\\' :: c :: rest =>
        if quote?.isNone then go done row (some (c :: word?.getD [])) none rest
        else if quote? = some '\\' then go done row (some (c :: '\\' :: word?.getD [])) quote? rest
        else go done row (some ('\\' :: word?.getD [])) quote? (c :: rest)
      | c :: rest =>
        match quote? with
        | some q => if c = q then go done row word? none rest
          else go done row (some (c :: word?.getD [])) quote? rest
        | none =>
          if c = '"' || c = '\'' then go done row (some (word?.getD [])) (some c) rest
          else if c = '\n' then
            let row := match word? with
              | some w => String.ofList w.reverse :: row
              | none => row
            if row.isEmpty then go done [] none none rest
            else go (row.reverse :: done) [] none none rest
          else if isSpace c && !byLines then
            match word? with
            | some w => go done (String.ofList w.reverse :: row) none none rest
            | none => go done row none none rest
          else if isSpace c && word?.isNone then go done row none none rest
          else go done row (some (c :: word?.getD [])) none rest
    go [] [] none none text

def chunks {α : Type} (size : Nat) (l : List α) : List (List α) :=
  let rec go : Nat → List α → List (List α)
    | 0, _ => []
    | n + 1, l => if l.isEmpty then [] else l.take size :: go n (l.drop size)
  go l.length l

def xargsRules : List OptionRule :=
  [flag '0' "null", valued 'd' "delimiter", valued 'n' "max-args", valued 'L' "max-lines",
   valued 'I' "replace", flag 'r' "no-run-if-empty", flag 't' "verbose", valued 'P' "max-procs",
   valued 's' "max-chars", valued 'a' "arg-file", valued 'E', flag 'x', flag 'p', flag 'o']

def xargs : Starter := fun launch name args => do
  match Options.read xargsRules false args with
  | .error text => finish name (← misuse name text)
  | .ok o =>
    let input ← match o.value? "a" with
      | some path => contentOf path
      | none => Machine.readAll 0
    let text := (input.toOption.getD "").toList
    let mark? := match o.value? "d" with
      | some "\\n" => some '\n'
      | some "\\t" => some '\t'
      | some "\\0" => some '\x00'
      | some d => d.toList.head?
      | none => if o.has "0" then some '\x00' else none
    match readArguments mark? (o.has "I") text with
    | .error text => finish name (← fail name text)
    | .ok rows =>
      let command := if o.operands.isEmpty then ["echo"] else o.operands
      let runs : List (List Bytes) :=
        match o.value? "I", (o.value? "n").bind number?, (o.value? "L").bind number? with
        | some mark, _, _ =>
          rows.map fun row =>
            let line := " ".intercalate row
            command.take 1 ++ (command.drop 1).map fun arg => arg.replace mark line
        | none, some n, _ => (chunks (max 1 n) rows.flatten).map (command ++ ·)
        | none, none, some n => (chunks (max 1 n) rows).map fun rs => command ++ rs.flatten
        | none, none, none => [command ++ rows.flatten]
      let runs := if rows.isEmpty then (if o.has "r" || o.has "I" then [] else [command]) else runs
      -- what is started reads nothing
      let nothing ← Machine.openPath "/dev/null" .read
      if let .ok channel := nothing then Machine.connect 0 channel
      let mut status := 0
      let mut stopped := false
      for run in runs do
        if !stopped then
          if o.has "t" then Machine.complain (" ".intercalate run)
          match ← runCommand launch run with
          | .error e =>
            complain name (command.headD "" ++ ": " ++ Machine.reason e)
            status := refusalStatus e
            stopped := true
          | .ok w =>
            match w.ending with
            | .exited 0 => pure ()
            | .exited 255 =>
              complain name (command.headD "" ++ ": exited with status 255; aborting")
              status := 124
              stopped := true
            | .exited _ => status := 123
            | .killed signal =>
              complain name (command.headD "" ++ ": terminated by signal " ++ toString signal)
              status := 125
              stopped := true
            | .other => pure ()
      finish name status

def nohup : Starter := fun launch name args => do
  if args.isEmpty then finish name (← misuse name "missing operand" 125)
  else
    modify fun p => { p with ignored := 1 :: p.ignored }
    become launch name (fun s => "failed to run command " ++ quoted s)
      (if args.head? = some "--" then args.drop 1 else args)

def timeout : Starter := fun launch name args => do
  match Options.read [valued 's' "signal", valued 'k' "kill-after", flag 'v' "verbose",
      named "preserve-status", named "foreground"] false args with
  | .error text => finish name (← misuse name text 125)
  | .ok o =>
    match o.operands with
    | [] | [_] =>
      Machine.complain ("Try '" ++ name ++ " --help' for more information.")
      finish name 125
    | duration :: command =>
      let digits := duration.toList.takeWhile fun c => c.isDigit || c == '.'
      if (decimal? (String.ofList digits)).isNone then
        finish name (← misuse name ("invalid time interval " ++ quoted duration) 125)
      else
        match ← findCommand command with
        | .error e =>
          let shown := quoted (command.headD "")
          complain name ("failed to run command " ++ shown ++ ": " ++ Machine.reason e)
          finish name (refusalStatus e)
        | .ok loaded =>
          -- waiting is all that can take longer
          let seconds (s : Bytes) : Option (Int × Nat) := decimal? s
          let late := loaded.tool = "sleep" && (match seconds (String.ofList digits),
              (loaded.args[1]?).bind seconds with
            | some a, some b =>
              decide (scaleTo (max a.2 b.2) a < scaleTo (max a.2 b.2) b) && a.1 != 0
            | _, _ => false)
          if late then finish name (if o.has "preserve-status" then 143 else 124)
          else
            let w ← Machine.forked (launch loaded)
            match w.ending with
            | .killed signal => return .killed signal
            | _ => return w

def which : Utility := withOptions [flag 'a', flag 's'] fun _ o => do
  let p ← get
  let path := (Machine.lookup? p.environment "PATH").getD Machine.defaultSearchPath
  let runs (path : Bytes) : Bool :=
    (Machine.executable p.world.files p.cwd path).isOk
  let mut status := 0
  for name in o.operands do
    let candidates := if name.toList.contains '/' then [name]
      else (path.splitOn ":").map fun dir => (if dir.isEmpty then "." else dir) ++ "/" ++ name
    let found := candidates.filter runs
    let found := if o.has "a" then found else found.take 1
    if found.isEmpty then status := 1
    for f in found do if !o.has "s" then sayLine f
  return if o.operands.isEmpty then 1 else status

def killTool : Utility := fun name args => do
  let (signal?, targets) : Option Nat × List Bytes := match args with
    | "-s" :: s :: rest => ((number? s).or (Machine.signalByName? s), rest)
    | first :: rest =>
      match first.toList with
      | '-' :: s => ((number? (String.ofList s)).or (Machine.signalByName? (String.ofList s)), rest)
      | _ => (some 15, args)
    | [] => (some 15, [])
  match signal?, targets with
  | none, _ => fail name ("unknown signal: " ++ (args[1]?).getD (args.headD ""))
  | some _, [] => fail name "not enough arguments"
  | some signal, targets =>
    let mut status := 0
    for target in targets do
      match number? target with
      | none => status := ← fail name ("failed to parse argument: " ++ quoted target)
      | some id =>
        if (← get).world.living.contains id then
          if signal != 0 then Machine.send id signal
        else status := ← fail name ("sending signal to " ++ target ++ " failed: No such process")
    return status

namespace Find

/-- What is asked of the files that are found, and done with them. -/
inductive Test where
  | always (holds : Bool)
  | name (folded whole : Bool) (pattern : Shell.Pattern)
  | kind (letters : List Char)
  | isEmpty
  | executable
  | print (mark : Bytes)
  | delete
  | prune
  | run (command : List Bytes) (together : Bool)
  | format (text : Bytes)
  | not (t : Test)
  | and (a b : Test)
  | or (a b : Test)
  deriving Inhabited

/-- Whether a test does something with a file. -/
def Test.acts : Test → Bool
  | print _ | delete | run .. | format _ => true
  | not t => t.acts
  | and a b | or a b => a.acts || b.acts
  | _ => false

structure Query where
  test : Test
  least : Nat
  most : Option Nat
  deepFirst : Bool

def patternOf (s : Bytes) : Shell.Pattern := Shell.Pattern.ofChars false s.toList

abbrev Read := Except Bytes (Test × List Bytes)

mutual

def readPrimary : Nat → List Bytes → Read
  | 0, _ => .error "expression too long"
  | n + 1, args => do
    let value (option : Bytes) (rest : List Bytes) : Except Bytes (Bytes × List Bytes) :=
      match rest with
      | v :: rest => .ok (v, rest)
      | [] => .error ("missing argument to \x60" ++ option ++ "'")
    match args with
    | [] => .error "expected an expression"
    | "(" :: rest => do
      let (t, rest) ← readOr n rest
      match rest with
      | ")" :: rest => return (t, rest)
      | _ =>
        .error "invalid expression; I was expecting to find a ')' somewhere but did not see one."
    | "!" :: rest | "-not" :: rest => do
      let (t, rest) ← readPrimary n rest
      return (.not t, rest)
    | option :: rest =>
      match option with
      | "-name" | "-iname" | "-path" | "-wholename" | "-ipath" => do
        let (v, rest) ← value option rest
        let folded := option = "-iname" ∨ option = "-ipath"
        let v := if folded then v.map Char.toLower else v
        let whole := !(["-name", "-iname"].contains option)
        return (.name folded whole (patternOf v), rest)
      | "-type" => do
        let (v, rest) ← value option rest
        return (.kind (v.toList.filter (· != ',')), rest)
      | "-empty" => return (.isEmpty, rest)
      | "-executable" => return (.executable, rest)
      | "-true" => return (.always true, rest)
      | "-false" => return (.always false, rest)
      | "-print" => return (.print "\n", rest)
      | "-print0" => return (.print "\x00", rest)
      | "-printf" => do
        let (v, rest) ← value option rest
        return (.format v, rest)
      | "-delete" => return (.delete, rest)
      | "-prune" => return (.prune, rest)
      | "-maxdepth" | "-mindepth" => do
        let (_, rest) ← value option rest
        return (.always true, rest)
      | "-depth" | "-xdev" | "-mount" | "-noleaf" | "-follow" => return (.always true, rest)
      | "-exec" =>
        let body := rest.takeWhile (· != ";")
        let plus := (rest.zip (rest.drop 1)).findIdx? fun (a, b) => a = "\x7b\x7d" ∧ b = "+"
        match plus with
        | some i =>
          if i + 1 < body.length then return (.run (rest.take i) true, rest.drop (i + 2))
          else return (.run body false, rest.drop (body.length + 1))
        | none =>
          if body.length = rest.length then .error ("missing argument to \x60-exec'")
          else return (.run body false, rest.drop (body.length + 1))
      | _ => .error ("unknown predicate \x60" ++ option ++ "'")

def readAnd : Nat → List Bytes → Read
  | 0, _ => .error "expression too long"
  | n + 1, args => do
    let (a, rest) ← readPrimary n args
    match rest with
    | "-a" :: rest | "-and" :: rest => do
      let (b, rest) ← readAnd n rest
      return (.and a b, rest)
    | [] | "-o" :: _ | "-or" :: _ | ")" :: _ => return (a, rest)
    | rest => do
      let (b, rest) ← readAnd n rest
      return (.and a b, rest)

def readOr : Nat → List Bytes → Read
  | 0, _ => .error "expression too long"
  | n + 1, args => do
    let (a, rest) ← readAnd n args
    match rest with
    | "-o" :: rest | "-or" :: rest => do
      let (b, rest) ← readOr n rest
      return (.or a b, rest)
    | rest => return (a, rest)

end

/-- The value of an option that holds for the whole search. -/
def globalNumber? (args : List Bytes) (option : Bytes) : Option Nat :=
  match args.idxOf? option with
  | some i => (args[i + 1]?).bind number?
  | none => none

def readQuery (args : List Bytes) : Except Bytes Query := do
  let (test, rest) ← if args.isEmpty then pure (.always true, [])
    else readOr (4 * args.length + 4) args
  if !rest.isEmpty then .error "you have too many ')'"
  let test := if test.acts then test else .and test (.print "\n")
  return {
    test, least := (globalNumber? args "-mindepth").getD 0, most := globalNumber? args "-maxdepth"
    deepFirst := args.contains "-delete" || args.contains "-depth" }

/-- A file that is looked at. -/
structure Item where
  path : Bytes
  place : Place
  node : Node
  depth : Nat

/-- What a search carries along: commands that are run together at the end, and its status. -/
structure Progress where
  collected : List (List Bytes × Bytes) := []
  status : Nat := 0
  pruned : Bool := false

def kindLetter : Node → Char
  | .directory => 'd'
  | .file .. => 'f'
  | .link _ => 'l'

def formatted (i : Item) : List Char → List Char
  | '%' :: c :: rest =>
    (match c with
      | 'p' => i.path.toList
      | 'f' => (lastPart i.path).toList
      | 'h' => (parentPart i.path).toList
      | 'y' => [kindLetter i.node]
      | 'd' => (toString i.depth).toList
      | 's' => (toString (match i.node with
        | .file content _ => content.size
        | _ => 4096)).toList
      | '%' => ['%']
      | c => ['%', c]) ++ formatted i rest
  | '\\' :: c :: rest =>
    (match c with
      | 'n' => '\n'
      | 't' => '\t'
      | '0' => '\x00'
      | c => c) :: formatted i rest
  | c :: rest => c :: formatted i rest
  | [] => []

def Test.holds (launch : Launch) (name : Bytes) (i : Item) :
    Test → StateT Progress Work Bool
  | .always b => return b
  | .name folded whole pattern => do
    let text := if whole then i.path else lastPart i.path
    let text := if folded then text.map Char.toLower else text
    return pattern.fits text.toList
  | .kind letters => return letters.contains (kindLetter i.node)
  | .isEmpty => do
    match i.node with
    | .directory => return isEmptyDirectory (← Machine.files) i.place
    | .file content _ => return content.size = 0
    | .link _ => return false
  | .executable =>
    match i.node with
    | .file _ x => return x
    | _ => return true
  | .print mark => do
    say (i.path ++ mark)
    return true
  | .format text => do
    say (String.ofList (formatted i text.toList))
    return true
  | .delete => do
    match i.node with
    | .directory =>
      if i.path = "." then return true
      match ← removeDirectoryAt i.path with
      | .ok _ => return true
      | .error e =>
        complain name ("cannot delete " ++ quoted i.path ++ ": " ++ Machine.reason e)
        modify fun p => { p with status := 1 }
        return false
    | _ =>
      Machine.setFiles ((← Machine.files).remove i.place)
      return true
  | .prune => do
    modify fun p => { p with pruned := true }
    return true
  | .run command together => do
    if together then
      modify fun p => { p with collected := (command, i.path) :: p.collected }
      return true
    else
      let args := command.map fun a => a.replace "\x7b\x7d" i.path
      match ← runCommand launch args with
      | .ok w => return w.succeeded
      | .error e =>
        complain name (quoted (args.headD "") ++ ": " ++ Machine.reason e)
        return false
  | .not t => do return !(← t.holds launch name i)
  | .and a b => do
    if ← a.holds launch name i then b.holds launch name i else return false
  | .or a b => do
    if ← a.holds launch name i then return true else b.holds launch name i

/-- Look at a file and all below it. -/
def visit (launch : Launch) (name : Bytes) (q : Query) : Nat → Item → StateT Progress Work Unit
  | 0, _ => return
  | n + 1, i => do
    let look : StateT Progress Work Unit := do
      if q.least ≤ i.depth then
        let _ ← q.test.holds launch name i
    modify fun p => { p with pruned := false }
    if !q.deepFirst then look
    if !(← get).pruned && q.most.all (i.depth < ·) && i.node.isDirectory then
      let fs ← Machine.files
      for child in namesIn fs i.place do
        let place := Bytes.toText child :: i.place
        if let some node := fs.node? place then
          visit launch name q n ⟨joinPath i.path child, place, node, i.depth + 1⟩
    if q.deepFirst then look

end Find

def find : Starter := fun launch name args => do
  let args := args.dropWhile fun a => ["-H", "-L", "-P"].contains a
  let isTest (a : Bytes) : Bool := a = "(" || a = "!" || (a.startsWith "-" && a != "-")
  let paths := args.takeWhile fun a => !isTest a
  let tests := args.drop paths.length
  match Find.readQuery tests with
  | .error text => finish name (← fail name text)
  | .ok q =>
    let mut progress : Find.Progress := {}
    for path in (if paths.isEmpty then ["."] else paths) do
      match ← nodeAt .keep path with
      | .error e =>
        complain name (quoted path ++ ": " ++ Machine.reason e)
        progress := { progress with status := 1 }
      | .ok (place, node) =>
        let ((), next) ← (Find.visit launch name q 1000 ⟨path, place, node, 0⟩).run progress
        progress := next
    let commands := (progress.collected.reverse.map Prod.fst).eraseDups
    for command in commands do
      let files := (progress.collected.reverse.filter (·.1 == command)).map Prod.snd
      match ← runCommand launch (command ++ files) with
      | .ok w => if !w.succeeded then progress := { progress with status := 1 }
      | .error e =>
        complain name (quoted (command.headD "") ++ ": " ++ Machine.reason e)
        progress := { progress with status := 1 }
    finish name progress.status

end DocLaunch.Tool
