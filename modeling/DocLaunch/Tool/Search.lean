import DocLaunch.Tool.Files

namespace DocLaunch.Tool

open Machine (Bytes Work)

inductive PatternKind where
  | basic
  | extended
  | fixed
  deriving DecidableEq

/-- A text as an expression that fits just it. -/
def literalRegex (cs : List Char) : Regex :=
  cs.foldl (fun r c => if r = .empty then .char c else .sequence r (.char c)) .empty

def patternRegex? (kind : PatternKind) (text : Bytes) : Option Regex :=
  match kind with
  | .basic => Regex.ofText? .basic text.toList
  | .extended => Regex.ofText? .extended text.toList
  | .fixed => some (literalRegex text.toList)

/-- How lines are searched, and what is shown of them. -/
structure Search where
  regexes : List Regex
  folded : Bool
  inverted : Bool
  wholeWords : Bool
  wholeLines : Bool

namespace Search

/-- Whether a place stands apart from other words. -/
def standsAlone (t : Regex.Subject) (m : Regex.Found) : Bool :=
  !t.isWordBefore m.start && !t.isWordAt m.stop

/-- The first of all places in a line from a position on, the longest one where several begin. -/
def next? (s : Search) (t : Regex.Subject) : Nat → Nat → Option Regex.Found
  | 0, _ => none
  | n + 1, start =>
    let found := s.regexes.filterMap fun r =>
      if s.wholeLines then
        ((Regex.fits t r (0, [])).find? fun f => f.1 = t.size).map fun f =>
          (⟨0, f.1, f.2⟩ : Regex.Found)
      else r.searchLongest t start
    let found := found.filter fun m => start ≤ m.start
    match found with
    | [] => none
    | first :: rest =>
      let best := rest.foldl (fun (a b : Regex.Found) =>
        if b.start < a.start || (b.start = a.start && a.stop < b.stop) then b else a) first
      if s.wholeWords && !standsAlone t best then
        if best.start + 1 ≤ t.size then next? s t n (best.start + 1) else none
      else some best

def places (s : Search) (t : Regex.Subject) : Nat → Nat → List Regex.Found
  | 0, _ => []
  | n + 1, start =>
    match s.next? t (t.size + 2) start with
    | none => []
    | some m =>
      if m.stop = m.start then
        if m.start < t.size then places s t n (m.start + 1) else []
      else m :: places s t n m.stop

def selects (s : Search) (line : List Char) : Bool :=
  let t : Regex.Subject := { chars := line.toArray, folded := s.folded }
  (s.next? t (t.size + 2) 0).isSome != s.inverted

end Search

/-- The files that a search goes through: those in directories too, if it goes deep. -/
def searchedFiles (fs : FileSystem) : Nat → Bytes → Place → List Bytes
  | 0, _, _ => []
  | n + 1, path, place =>
    match fs.node? place with
    | some .directory =>
      (namesIn fs place).flatMap fun name =>
        match fs.node? (Bytes.toText name :: place) with
        | some (.link _) => []
        | _ => searchedFiles fs n (joinPath path name) (Bytes.toText name :: place)
    | some _ => [path]
    | none => []

/-- What is shown of the selected lines of one text, and the numbers of these lines. -/
def searchText (s : Search) (o : Options) (title : Bytes) (text : Bytes) : Bytes × List Nat :=
  let limit := (o.value? "m").bind number?
  let lines := (linesOf text).zipIdx 1
  let after := (((o.value? "A").orElse fun _ => o.value? "C").bind number?).getD 0
  let before := (((o.value? "B").orElse fun _ => o.value? "C").bind number?).getD 0
  let chosen := lines.filter fun e => s.selects e.1
  let chosen := match limit with
    | some n => chosen.take n
    | none => chosen
  let mark (sign : Bytes) (i : Nat) : Bytes :=
    (if title.isEmpty then "" else title ++ sign) ++
      (if o.has "n" then toString i ++ sign else "")
  let shown : List Bytes :=
    if o.has "o" then
      if s.inverted then []
      else chosen.flatMap fun (line, i) =>
        let t : Regex.Subject := { chars := line.toArray, folded := s.folded }
        (s.places t (t.size + 1) 0).map fun m =>
          mark ":" i ++ String.ofList (t.slice m.start m.stop) ++ "\n"
    else if after + before = 0 then
      chosen.map fun (line, i) => mark ":" i ++ String.ofList line ++ "\n"
    else
      let numbers := chosen.map Prod.snd
      let (parts, _) := lines.foldl (fun (done, last) (line, i) =>
        if numbers.contains i then
          ((mark ":" i ++ String.ofList line ++ "\n") :: gap done last i, i)
        else if numbers.any fun n => (n < i && i ≤ n + after) || (i < n && n ≤ i + before) then
          ((mark "-" i ++ String.ofList line ++ "\n") :: gap done last i, i)
        else (done, last)) (([] : List Bytes), 0)
      parts.reverse
  (String.join shown, chosen.map Prod.snd)
where
  gap (done : List Bytes) (last i : Nat) : List Bytes :=
    if done.isEmpty || last + 1 = i then done else "--\n" :: done

def grepRules : List OptionRule :=
  [flag 'E' "extended-regexp", flag 'F' "fixed-strings", flag 'G' "basic-regexp", flag 'P',
   flag 'i' "ignore-case", flag 'y', flag 'v' "invert-match", flag 'w' "word-regexp",
   flag 'x' "line-regexp", flag 'c' "count", flag 'l' "files-with-matches",
   flag 'L' "files-without-match", flag 'q' "quiet", named "silent", flag 's' "no-messages",
   flag 'n' "line-number", flag 'H' "with-filename", flag 'h' "no-filename",
   flag 'o' "only-matching", flag 'r' "recursive", flag 'R', valued 'e' "regexp", valued 'f' "file",
   valued 'm' "max-count", valued 'A' "after-context", valued 'B' "before-context",
   valued 'C' "context", flag 'a' "text", flag 'b', flag 'U', flag 'z', flag 'I',
   named "color" .optional, named "colour" .optional, named "include" .required]

def grepUsage (name : Bytes) : Work Nat := do
  Machine.complain ("Usage: " ++ name ++ " [OPTION]... PATTERNS [FILE]...")
  Machine.complain ("Try '" ++ name ++ " --help' for more information.")
  return 2

/-- Search lines; the kind of the patterns is the one given, unless options say otherwise. -/
def grepAs (first : PatternKind) : Utility := fun name args =>
  match Options.read grepRules true args with
  | .error text => do
    complain name text
    grepUsage name
  | .ok o => do
    let kind := match o.last? ["E", "F", "G", "P"] with
      | some "F" => .fixed
      | some "G" => .basic
      | some _ => .extended
      | none => first
    let given ← (o.values "f").mapM fun path => do
      return ((← contentOf path).toOption.map fun text =>
        (linesOf text).map String.ofList).getD []
    let written := (o.values "e").flatMap (·.splitOn "\n") ++ given.flatten
    let (patterns, paths) := if o.has "e" || o.has "f" then (written, o.operands)
      else (((o.operands.head?).map (·.splitOn "\n")).getD [], o.operands.drop 1)
    if !(o.has "e" || o.has "f") && o.operands.isEmpty then return ← grepUsage name
    match patterns.mapM (patternRegex? kind) with
    | none => fail name "Invalid regular expression" 2
    | some regexes =>
      let s : Search := {
        regexes, folded := o.has "i" || o.has "y", inverted := o.has "v"
        wholeWords := o.has "w", wholeLines := o.has "x" }
      let deep := o.has "r" || o.has "R"
      let fs ← Machine.files
      let given := if paths.isEmpty then [if deep then "." else "-"] else paths
      let found ← given.mapM fun path => do
        if !deep || path = "-" then return [path]
        match ← nodeAt .follow path with
        | .ok (place, .directory) =>
          let all := searchedFiles fs 1000 path place
          return if paths.isEmpty then all.map fun p => (p.drop 2).toString else all
        | _ => return [path]
      let paths' := found.flatten
      let titled := if o.has "h" then false
        else o.has "H" || 1 < paths.length || (deep && (paths.isEmpty || paths' != paths))
      let quiet := o.has "q" || o.has "silent"
      let mut status := 1
      let mut failed := false
      let mut stopped := false
      for path in paths' do
        if !stopped then
          match ← contentOf path with
          | .error e =>
            if !o.has "s" then complain name (path ++ ": " ++ Machine.reason e)
            failed := true
          | .ok text =>
            let shownPath := if path = "-" then "(standard input)" else path
            let (shown, numbers) := searchText s o (if titled then shownPath else "") text
            let n := numbers.length
            if !quiet && !o.has "l" && !o.has "L" && (o.value? "m").bind number? = some n then
              let rest := (linesOf text).drop (numbers.getLast?.getD 0)
              giveBack path false (joinLines rest (text.endsWith "\n"))
            let hit := if o.has "L" then n = 0 else n != 0
            if hit then status := 0
            if quiet then
              if n != 0 then stopped := true
            else if o.has "l" then
              if n != 0 then sayLine shownPath
            else if o.has "L" then
              if n = 0 then sayLine shownPath
            else if o.has "c" then
              sayLine ((if titled then shownPath ++ ":" else "") ++ toString n)
            else say shown
      return if failed && !(quiet && status = 0) then 2 else status

end DocLaunch.Tool
