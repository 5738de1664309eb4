import DocLaunch.Tool.Stream

namespace DocLaunch.Tool

open Machine (Bytes Work)

def ranges? (text : Bytes) : Option (List (Nat × Option Nat)) :=
  (text.splitOn ",").mapM fun part =>
    match part.splitOn "-" with
    | [n] => (number? n).bind fun n => if n = 0 then none else some (n, some n)
    | [a, b] =>
      let start := if a.isEmpty then some 1 else number? a
      let stop := if b.isEmpty then some none else (number? b).map some
      match start, stop with
      | some a, some b =>
        if a = 0 || b.any (· < a) || part = "-" then none else some (a, b)
      | _, _ => none
    | _ => none

def inRanges (rs : List (Nat × Option Nat)) (i : Nat) : Bool :=
  rs.any fun (a, b) => a ≤ i && b.all (i ≤ ·)

def splitAt (mark : Char) (cs : List Char) : List (List Char) :=
  let rec go (done : List (List Char)) (part : List Char) : List Char → List (List Char)
    | [] => (part.reverse :: done).reverse
    | c :: rest => if c = mark then go (part.reverse :: done) [] rest else go done (c :: part) rest
  go [] [] cs

def cut : Utility := withOptions
    [valued 'b' "bytes", valued 'c' "characters", valued 'f' "fields", valued 'd' "delimiter",
     flag 'n', flag 's' "only-delimited", named "complement", named "output-delimiter" .required,
     flag 'z']
    fun name o => do
  let kinds := ["b", "c", "f"].filter o.has
  match kinds with
  | [] => misuse name "you must specify a list of bytes, characters, or fields"
  | [kind] =>
    match (o.value? kind).bind ranges? with
    | none =>
      let text := (o.value? kind).getD ""
      let what := if kind = "f" then "field" else "byte/character"
      if text = "0" || text.startsWith "0-" || text.startsWith "0," then
        misuse name (if kind = "f" then "fields are numbered from 1"
          else "byte/character positions are numbered from 1")
      else
        let position := if kind = "f" then "value " else "position "
        misuse name ("invalid " ++ what ++ " " ++ position ++ quoted text)
    | some rs =>
      let takes (i : Nat) : Bool := inRanges rs (i + 1) != o.has "complement"
      let delimiter := (o.value? "d").getD "\t"
      if kind = "f" && 1 < delimiter.length then
        misuse name "the delimiter must be a single character"
      else
        let mark := delimiter.toList.headD '\x00'
        let between := ((o.value? "output-delimiter").getD delimiter).toList
        eachContent name o.operands fun _ text =>
          sayLines ((linesOf text).flatMap fun line =>
            if kind = "f" then
              let fields := splitAt mark line
              if fields.length = 1 then (if o.has "s" then [] else [line])
              else [between.intercalate ((fields.zipIdx.filter fun e => takes e.2).map Prod.fst)]
            else [(line.zipIdx.filter fun e => takes e.2).map Prod.fst])
  | _ => misuse name "only one list may be specified"

def pasteMarks : List Char → List (List Char)
  | '\\' :: c :: rest =>
    (match c with
      | 'n' => ['\n']
      | 't' => ['\t']
      | '0' => []
      | c => [c]) :: pasteMarks rest
  | c :: rest => [c] :: pasteMarks rest
  | [] => []

def joinWith (marks : List (List Char)) (parts : List (List Char)) : List Char :=
  (parts.zipIdx.map fun (part, i) =>
    if i = 0 then part else (marks[(i - 1) % marks.length]?).getD [] ++ part).flatten

def paste : Utility := withOptions [valued 'd' "delimiters", flag 's' "serial"] fun name o => do
  let given := pasteMarks ((o.value? "d").getD "\t").toList
  let marks := if given.isEmpty then [[]] else given
  let paths := if o.operands.isEmpty then ["-"] else o.operands
  let inputs := paths.count "-"
  let (texts, status) ← allContent name (if 1 < inputs && !o.has "s" then
    "-" :: paths.filter (· != "-") else paths)
  if status != 0 then return status
  let columns := texts.map linesOf
  if o.has "s" then
    sayLines (columns.map fun lines => joinWith marks lines)
  else
    let columns :=
      if 1 < inputs then
        -- the standard input is dealt out line by line
        let shared := columns.headD []
        (List.range inputs).map fun k =>
          (shared.zipIdx.filter fun e => e.2 % inputs = k).map Prod.fst
      else columns
    let height := columns.foldl (fun n c => max n c.length) 0
    sayLines ((List.range height).map fun i =>
      joinWith marks (columns.map fun column => column[i]?.getD []))
  return 0

structure SortStyle where
  numeric : Bool := false
  human : Bool := false
  versions : Bool := false
  reversed : Bool := false
  blanks : Bool := false
  folded : Bool := false
  dictionary : Bool := false

def SortStyle.add (s : SortStyle) : Char → Option SortStyle
  | 'n' => some { s with numeric := true }
  | 'g' => some { s with numeric := true }
  | 'h' => some { s with human := true }
  | 'V' => some { s with versions := true }
  | 'r' => some { s with reversed := true }
  | 'b' => some { s with blanks := true }
  | 'f' => some { s with folded := true }
  | 'd' => some { s with dictionary := true }
  | 'i' | 'M' | 'R' => some s
  | _ => none

/-- A key: where it begins and ends, as a field and a character, and how it is compared. -/
structure SortKey where
  start : Nat × Nat
  stop : Option (Nat × Nat)
  style : Option SortStyle

def sortKey? (text : Bytes) : Option SortKey := do
  let position (cs : List Char) : Option (Nat × Option Nat × List Char) := do
    let digits := cs.takeWhile Char.isDigit
    let field ← number? (String.ofList digits)
    match cs.drop digits.length with
    | '.' :: rest =>
      let places := rest.takeWhile Char.isDigit
      some (field, some (← number? (String.ofList places)), rest.drop places.length)
    | rest => some (field, none, rest)
  let (field, char?, rest) ← position text.toList
  if field = 0 then none
  let letters := rest.takeWhile (· != ',')
  let (stop, more) ← match rest.drop letters.length with
    | ',' :: rest => do
      let (field, char?, rest) ← position rest
      some (some (field, char?.getD 0), rest)
    | _ => some (none, [])
  let all := letters ++ more
  let style ← all.foldlM SortStyle.add {}
  some ⟨(field, char?.getD 1), stop, if all.isEmpty then none else some style⟩

def isSortBlank (c : Char) : Bool := c == ' ' || c == '\t'

/-- The fields of a line; without a mark the blanks before a field belong to it. -/
def sortFields (mark? : Option Char) (cs : List Char) : List (List Char) :=
  match mark? with
  | some mark => splitAt mark cs
  | none =>
    let rec go : Nat → List Char → List (List Char)
      | 0, _ => []
      | n + 1, cs =>
        if cs.isEmpty then []
        else
          let blanks := cs.takeWhile isSortBlank
          let word := (cs.drop blanks.length).takeWhile (!isSortBlank ·)
          (blanks ++ word) :: go n (cs.drop (blanks.length + word.length))
    go cs.length cs

def SortKey.part (k : SortKey) (mark? : Option Char) (blanks : Bool) (cs : List Char) : List Char :=
  let fields := sortFields mark? cs
  let between := if mark?.isSome then 1 else 0
  let offset (field : Nat) : Nat :=
    (fields.take field).foldl (fun n f => n + f.length + between) 0
  let skip (i : Nat) : Nat :=
    if blanks then i + ((cs.drop i).takeWhile isSortBlank).length else i
  let start := skip (offset (k.start.1 - 1)) + (k.start.2 - 1)
  match k.stop with
  | none => cs.drop start
  | some (field, char) =>
    let stop :=
      if char = 0 then offset (field - 1) + ((fields[field - 1]?).getD []).length
      else skip (offset (field - 1)) + char
    (cs.take stop).drop start

/-- A decimal number at the front of a text, as whole digits and places. -/
def sortNumber (cs : List Char) : Bool × List Char × List Char × List Char :=
  let cs := cs.dropWhile isSortBlank
  let (minus, cs) := match cs with
    | '-' :: rest => (true, rest)
    | cs => (false, cs)
  let whole := cs.takeWhile Char.isDigit
  let rest := cs.drop whole.length
  let places := match rest with
    | '.' :: more => more.takeWhile Char.isDigit
    | _ => []
  let unit := match rest with
    | '.' :: more => more.drop places.length
    | rest => rest
  (minus, whole.dropWhile (· == '0'), (places.reverse.dropWhile (· == '0')).reverse, unit)

def compareChars : List Char → List Char → Ordering
  | [], [] => .eq
  | [], _ => .lt
  | _, [] => .gt
  | a :: as, b :: bs => if a < b then .lt else if b < a then .gt else compareChars as bs

def compareNumbers (human : Bool) (a b : List Char) : Ordering :=
  let (minusA, wholeA, placesA, unitA) := sortNumber a
  let (minusB, wholeB, placesB, unitB) := sortNumber b
  let rank (unit : List Char) : Nat :=
    if human then ("KMGTPEZY".toList.idxOf? ((unit.headD ' ').toUpper)).elim 0 (· + 1) else 0
  let magnitude : Ordering :=
    (compare (rank unitA) (rank unitB)).then
      ((compare wholeA.length wholeB.length).then
        ((compareChars wholeA wholeB).then (compareChars placesA placesB)))
  let zeroA := wholeA.isEmpty && placesA.isEmpty
  let zeroB := wholeB.isEmpty && placesB.isEmpty
  let minusA := minusA && !zeroA
  let minusB := minusB && !zeroB
  match minusA, minusB with
  | false, false => magnitude
  | true, true => magnitude.swap
  | true, false => .lt
  | false, true => .gt

/-- Runs of digits compare as numbers, all else by characters. -/
def compareVersions : Nat → List Char → List Char → Ordering
  | 0, a, b => compareChars a b
  | n + 1, a, b =>
    let textA := a.takeWhile (!·.isDigit)
    let textB := b.takeWhile (!·.isDigit)
    match compareChars textA textB with
    | .eq =>
      let a := a.drop textA.length
      let b := b.drop textB.length
      if a.isEmpty || b.isEmpty then compareChars a b
      else
        match compareNumbers false (a.takeWhile Char.isDigit) (b.takeWhile Char.isDigit) with
        | .eq => compareVersions n (a.dropWhile Char.isDigit) (b.dropWhile Char.isDigit)
        | found => found
    | found => found

def SortStyle.compare (s : SortStyle) (a b : List Char) : Ordering :=
  let plain (cs : List Char) : List Char :=
    let cs := if s.blanks then cs.dropWhile isSortBlank else cs
    let cs := if s.dictionary then cs.filter fun c => c.isAlphanum || isSortBlank c else cs
    if s.folded then cs.map Char.toUpper else cs
  let found :=
    if s.numeric then compareNumbers false a b
    else if s.human then compareNumbers true a b
    else if s.versions then compareVersions (a.length + b.length) a b
    else compareChars (plain a) (plain b)
  if s.reversed then found.swap else found

def sort : Utility := withOptions
    [flag 'b' "ignore-leading-blanks", flag 'c' "check", flag 'C', flag 'd' "dictionary-order",
     flag 'f' "ignore-case", flag 'g' "general-numeric-sort", flag 'h' "human-numeric-sort",
     valued 'k' "key", flag 'm' "merge", flag 'M', flag 'n' "numeric-sort", valued 'o' "output",
     flag 'r' "reverse", flag 's' "stable", valued 't' "field-separator", flag 'u' "unique",
     flag 'V' "version-sort", flag 'i', flag 'R', valued 'S', valued 'T', flag 'z']
    (fun name o => do
  let letters := "nghVrbfd".toList.filter fun c => o.has c.toString
  let style := (letters.foldlM SortStyle.add {}).getD {}
  match (o.values "k").mapM sortKey? with
  | none => fail name "invalid number at field start: invalid count at start of ''" 2
  | some keys =>
    let mark? := (o.value? "t").bind fun t => if t = "\\0" then some '\x00' else t.toList.head?
    let (texts, status) ← do
      let mut texts := []
      let mut status := 0
      for path in (if o.operands.isEmpty then ["-"] else o.operands) do
        match ← contentOf path with
        | .ok text => texts := text :: texts
        | .error e =>
          if e = .isDirectory then
            complain name ("read failed: " ++ quotedIfNeeded path ++ ": " ++ Machine.reason e)
          else complain name ("cannot read: " ++ quotedIfNeeded path ++ ": " ++ Machine.reason e)
          status := 2
      pure (texts.reverse, status)
    if status != 0 then return status
    let lines := texts.flatMap linesOf
    let byKeys (a b : List Char) : Ordering :=
      if keys.isEmpty then style.compare a b
      else keys.foldl (fun found k =>
        found.then (
          let s := k.style.getD style
          s.compare (k.part mark? s.blanks a) (k.part mark? s.blanks b))) .eq
    let inFull (a b : List Char) : Ordering :=
      let found := byKeys a b
      if found != .eq || o.has "s" || o.has "u" then found
      else if o.has "r" then (compareChars a b).swap else compareChars a b
    if o.has "c" || o.has "C" then
      let wrong := (lines.zip (lines.drop 1)).findIdx? fun (a, b) =>
        if o.has "u" then inFull a b != .lt else inFull a b = .gt
      match wrong with
      | none => return 0
      | some i =>
        if o.has "C" then return 1
        let path := o.operands.headD "-"
        fail name (path ++ ":" ++ toString (i + 2) ++ ": disorder: " ++
          String.ofList (lines[i + 1]?.getD []))
    else
      let sorted := lines.mergeSort fun a b => inFull a b != .gt
      let kept := if o.has "u" then
          (sorted.foldl (fun done line => match done with
            | before :: _ => if byKeys before line = .eq then done else line :: done
            | [] => [line]) []).reverse
        else sorted
      match o.value? "o" with
      | none =>
        sayLines kept
        return 0
      | some path =>
        match ← Machine.openPath path .create with
        | .error e =>
          fail name ("open failed: " ++ quotedIfNeeded path ++ ": " ++ Machine.reason e) 2
        | .ok channel =>
          let before := (← get).descriptors
          Machine.connect 20 channel
          let _ ← Machine.write 20 (String.ofList (kept.flatMap fun l => l ++ ['\n']))
          modify fun p => { p with descriptors := before }
          return 0) true 2

def uniq : Utility := withOptions
    [flag 'c' "count", flag 'd' "repeated", flag 'D', flag 'u' "unique", flag 'i' "ignore-case",
     valued 'f' "skip-fields", valued 's' "skip-chars", valued 'w' "check-chars"] fun name o => do
  let fields := ((o.value? "f").bind number?).getD 0
  let chars := ((o.value? "s").bind number?).getD 0
  let rec skip : Nat → List Char → List Char
    | 0, cs => cs
    | n + 1, cs => skip n ((cs.dropWhile isSortBlank).dropWhile (!isSortBlank ·))
  let key (line : List Char) : List Char :=
    let cs := (skip fields line).drop chars
    let cs := match (o.value? "w").bind number? with
      | some n => cs.take n
      | none => cs
    if o.has "i" then cs.map Char.toLower else cs
  let (texts, status) ← allContent name (o.operands.take 1)
  if status != 0 then return status
  let groups := ((linesOf (String.join texts)).foldl (fun done line => match done with
    | (first, n) :: rest =>
      if key first = key line then (first, n + 1) :: rest else (line, 1) :: done
    | [] => [(line, 1)]) ([] : List (List Char × Nat))).reverse
  let kept := groups.filter fun (_, n) =>
    (!o.has "d" || 1 < n) && (!o.has "u" || n = 1) && (!o.has "D" || 1 < n)
  let shown := kept.flatMap fun (line, n) =>
    if o.has "c" then [(padLeft 7 (toString n) ++ " ").toList ++ line]
    else if o.has "D" then List.replicate n line else [line]
  match o.operands with
  | [_, path] =>
    match ← Machine.openPath path .create with
    | .error e => fail name (quotedIfNeeded path ++ ": " ++ Machine.reason e)
    | .ok channel =>
      let before := (← get).descriptors
      Machine.connect 20 channel
      let _ ← Machine.write 20 (String.ofList (shown.flatMap fun l => l ++ ['\n']))
      modify fun p => { p with descriptors := before }
      return 0
  | _ =>
    sayLines shown
    return 0

def charClass? : String → Option (Char → Bool)
  | "alpha" => some Char.isAlpha
  | "digit" => some Char.isDigit
  | "alnum" => some Char.isAlphanum
  | "upper" => some Char.isUpper
  | "lower" => some Char.isLower
  | "space" => some fun c => c == ' ' || ('\t' ≤ c && c ≤ '\r')
  | "blank" => some isSortBlank
  | "punct" => some fun c => '!' ≤ c && c ≤ '~' && !c.isAlphanum
  | "print" => some fun c => ' ' ≤ c && c ≤ '~'
  | "graph" => some fun c => '!' ≤ c && c ≤ '~'
  | "cntrl" => some fun c => c < ' ' || c == '\x7f'
  | "xdigit" => some fun c => c.isDigit || ('a' ≤ c.toLower && c.toLower ≤ 'f')
  | _ => none

def charsBetween (a b : Char) : List Char :=
  (List.range (b.toNat + 1 - a.toNat)).map fun i => Char.ofNat (a.toNat + i)

def allBytes : List Char := (List.range 256).map Char.ofNat

def trChar : List Char → Option (Char × List Char)
  | [] => none
  | '\\' :: rest =>
    match rest with
    | [] => some ('\\', [])
    | c :: more =>
      let octal := rest.takeWhile fun c => '0' ≤ c && c ≤ '7'
      if octal.isEmpty then
        some ((match c with
          | 'n' => '\n'
          | 't' => '\t'
          | 'r' => '\r'
          | 'a' => '\x07'
          | 'b' => '\x08'
          | 'f' => '\x0c'
          | 'v' => '\x0b'
          | c => c), more)
      else
        let digits := octal.take 3
        let n := digits.foldl (fun n c => 8 * n + (c.toNat - '0'.toNat)) 0
        some (Char.ofNat (n % 256), rest.drop digits.length)
  | c :: rest => some (c, rest)

/-- The characters of a set; `size` is how far a repeated one at the end is filled up. -/
def trSet (size : Nat) : Nat → List Char → List Char
  | 0, _ => []
  | n + 1, cs =>
    let plain : List Char :=
      match trChar cs with
      | none => []
      | some (a, '-' :: rest) =>
        if rest.isEmpty then a :: '-' :: []
        else
          match trChar rest with
          | some (b, rest) => charsBetween a b ++ trSet size n rest
          | none => [a, '-']
      | some (a, rest) => a :: trSet size n rest
    match cs with
    | '[' :: ':' :: rest =>
      let name := rest.takeWhile (· != ':')
      match charClass? (String.ofList name), rest.drop name.length with
      | some has, ':' :: ']' :: rest => allBytes.filter has ++ trSet size n rest
      | _, _ => plain
    | '[' :: '=' :: c :: '=' :: ']' :: rest => c :: trSet size n rest
    | '[' :: rest =>
      match trChar rest with
      | some (c, '*' :: rest) =>
        let digits := rest.takeWhile Char.isDigit
        match rest.drop digits.length with
        | ']' :: rest =>
          let after := trSet size n rest
          let times := if digits.isEmpty then size - after.length
            else (number? (String.ofList digits)).getD 0
          List.replicate times c ++ after
        | _ => plain
      | _ => plain
    | _ => plain

/-- Whether a range in a set is the wrong way round. -/
def trFault? : Nat → List Char → Option Bytes
  | 0, _ => none
  | n + 1, cs =>
    match trChar cs with
    | none => none
    | some (a, '-' :: rest) =>
      match trChar rest with
      | some (b, more) =>
        if b < a then
          some ("range-endpoints of '" ++ a.toString ++ "-" ++ b.toString ++
            "' are in reverse collating sequence order")
        else trFault? n more
      | none => none
    | some (_, rest) => trFault? n rest

def tr : Utility := withOptions
    [flag 'c' "complement", flag 'C', flag 'd' "delete", flag 's' "squeeze-repeats",
     flag 't' "truncate-set1"] (fun name o => do
  let deletes := o.has "d"
  let squeezes := o.has "s"
  let complement := o.has "c" || o.has "C"
  let fault? := o.operands.findSome? fun s => trFault? s.length s.toList
  match o.operands, fault? with
  | [], _ => misuse name "missing operand"
  | _, some text => fail name text
  | first :: rest, none =>
    let wanted := if deletes = squeezes then 2 else 1
    if rest.length + 1 < wanted && !(squeezes && !deletes) then
      complain name ("missing operand after " ++ quoted first)
      Machine.complain (
        if deletes then "Two strings must be given when both deleting and squeezing repeats."
        else "Two strings must be given when translating.")
      Machine.complain ("Try '" ++ name ++ " --help' for more information.")
      return 1
    else if 2 < rest.length + 1 then misuse name ("extra operand " ++ quoted (rest[1]?.getD ""))
    else if deletes && !squeezes && !rest.isEmpty then
      complain name ("extra operand " ++ quoted (rest.headD ""))
      Machine.complain "Only one string may be given when deleting without squeezing repeats."
      Machine.complain ("Try '" ++ name ++ " --help' for more information.")
      return 1
    else
      let one := trSet 0 (first.length + 1) first.toList
      let one := if complement then allBytes.filter fun c => !one.contains c else one
      let two? := rest.head?.map fun s => trSet one.length (s.length + 1) s.toList
      let text := ((← Machine.readAll 0).toOption.getD "").toList
      let squeeze (set : List Char) (cs : List Char) : List Char :=
        (cs.foldl (fun done c => match done with
          | before :: _ => if before = c && set.contains c then done else c :: done
          | [] => [c]) []).reverse
      match deletes, two? with
      | true, two? =>
        let left := text.filter fun c => !one.contains c
        say (String.ofList (match two? with
          | some two => squeeze two left
          | none => left))
        return 0
      | false, none =>
        say (String.ofList (squeeze one text))
        return 0
      | false, some two =>
        match two.getLast? with
        | none => fail name "when not truncating set1, string2 must be non-empty"
        | some last =>
          let one := if o.has "t" then one.take two.length else one
          let filled := two ++ List.replicate (one.length - two.length) last
          let pairs := (one.zip filled).reverse
          let table := (allBytes.map fun c => (pairs.lookup c).getD c).toArray
          let changed := text.map fun c => table[c.toNat]?.getD c
          say (String.ofList (if squeezes then squeeze two changed else changed))
          return 0) false

def comm : Utility := withOptions [flag '1', flag '2', flag '3'] fun name o => do
  match o.operands with
  | [a, b] =>
    match ← contentOf a, ← contentOf b with
    | .ok a, .ok b =>
      let indent (column : Nat) : List Char :=
        (['1', '2'].take (column - 1)).flatMap fun c => if o.has c.toString then [] else ['\t']
      let row (column : Nat) (line : List Char) : List (List Char) :=
        if o.has (toString column) then [] else [indent column ++ line]
      let rec merge : Nat → List (List Char) → List (List Char) → List (List Char)
        | 0, _, _ => []
        | n + 1, a :: as, b :: bs =>
          match compareChars a b with
          | .lt => row 1 a ++ merge n as (b :: bs)
          | .gt => row 2 b ++ merge n (a :: as) bs
          | .eq => row 3 a ++ merge n as bs
        | _ + 1, as, bs => as.flatMap (row 1) ++ bs.flatMap (row 2)
      let (as, bs) := (linesOf a, linesOf b)
      sayLines (merge (as.length + bs.length + 1) as bs)
      return 0
    | .error e, _ => fail name (quotedIfNeeded a ++ ": " ++ Machine.reason e)
    | _, .error e => fail name (quotedIfNeeded b ++ ": " ++ Machine.reason e)
  | [] => misuse name "missing operand"
  | [a] => misuse name ("missing operand after " ++ quoted a)
  | _ :: _ :: c :: _ => misuse name ("extra operand " ++ quoted c)

end DocLaunch.Tool
