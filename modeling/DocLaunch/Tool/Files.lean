import DocLaunch.Tool.Words

namespace DocLaunch.Tool

open Machine (Bytes Work)

def findTarget (last : FileSystem.LastLink) (path : Bytes) :
    Work (Except SystemFault FileSystem.Target) := do
  let p ← get
  return p.world.files.find last p.cwd (Bytes.toText path)

def nodeAt (last : FileSystem.LastLink) (path : Bytes) :
    Work (Except SystemFault (Place × Node)) := do
  match ← findTarget last path with
  | .error e => return .error e
  | .ok t =>
    match t.node? with
    | none => return .error .notFound
    | some n =>
      if t.slash && !n.isDirectory then return .error .notDirectory else return .ok (t.place, n)

def isDirectoryAt (path : Bytes) : Work Bool := do
  match ← nodeAt .follow path with
  | .ok (_, .directory) => return true
  | _ => return false

def joinPath (dir name : Bytes) : Bytes :=
  if dir.endsWith "/" then dir ++ name else dir ++ "/" ++ name

def namesIn (fs : FileSystem) (place : Place) : List Bytes :=
  let names := (fs.below place).filterMap fun (p, _) => match p with
    | name :: rest => if rest = place then some (Bytes.ofText name) else none
    | [] => none
  names.mergeSort fun a b => compareChars a.toList b.toList != .gt

/-- How names are shown in a list. -/
structure ListStyle where
  hidden : Bool
  almost : Bool
  slashes : Bool
  signs : Bool
  reversed : Bool
  deep : Bool
  separator : Bytes

def ListStyle.mark (style : ListStyle) (name : Bytes) (node : Node) : Bytes :=
  match node with
  | .directory => if style.slashes || style.signs then name ++ "/" else name
  | .file _ true => if style.signs then name ++ "*" else name
  | .link _ => if style.signs then name ++ "@" else name
  | _ => name

def ListStyle.row (style : ListStyle) (names : List Bytes) : Bytes :=
  if names.isEmpty then ""
  else if style.separator = "\n" then String.join (names.map (· ++ "\n"))
  else style.separator.intercalate names ++ "\n"

def ListStyle.namesOf (style : ListStyle) (fs : FileSystem) (place : Place) : List Bytes :=
  let dots := if style.hidden then
      [".", ".."].map fun name => style.mark name .directory else []
  let visible := (namesIn fs place).filter fun name =>
    style.hidden || style.almost || !name.startsWith "."
  let shown := visible.map fun name =>
    style.mark name ((fs.node? (Bytes.toText name :: place)).getD .directory)
  if style.reversed then shown.reverse ++ dots.reverse else dots ++ shown

/-- List a directory and those below it, each under its path. -/
def listDeep (style : ListStyle) (fs : FileSystem) : Nat → Bool → Bytes → Place → Bytes
  | 0, _, _, _ => ""
  | n + 1, first, path, place =>
    let inner := (namesIn fs place).filter fun name =>
      (style.hidden || style.almost || !name.startsWith ".") &&
        (match fs.node? (Bytes.toText name :: place) with
          | some .directory => true
          | _ => false)
    let inner := if style.reversed then inner.reverse else inner
    (if first then "" else "\n") ++ path ++ ":\n" ++ style.row (style.namesOf fs place) ++
      String.join (inner.map fun name =>
        listDeep style fs n false (joinPath path name) (Bytes.toText name :: place))

def ls : Utility := withOptions
    [flag 'a' "all", flag 'A' "almost-all", flag '1', flag 'd' "directory", flag 'F' "classify",
     flag 'p', flag 'R' "recursive", flag 'r' "reverse", flag 'm', flag 'C', flag 'x', flag 'l',
     flag 'h' "human-readable", flag 't', flag 'S', flag 'X', flag 'f', flag 'U', flag 'L',
     flag 'H', flag 'n', flag 'i', flag 's', flag 'q', flag 'Q' "quote-name", flag 'b', flag 'N',
     flag 'v', flag 'k', flag 'o', flag 'g', flag 'G', flag 'c', flag 'u',
     named "color" .optional, named "group-directories-first", valued 'w', valued 'I']
    (fun name o => do
  let style : ListStyle := {
    hidden := o.last? ["a", "A", "f"] = some "a" || o.has "f"
    almost := o.last? ["a", "A"] = some "A", slashes := o.has "p"
    signs := o.has "F", reversed := o.has "r" && !o.has "U" && !o.has "f", deep := o.has "R"
    separator := if o.last? ["m", "1", "C", "x", "l"] = some "m" then ", " else "\n" }
  let paths := if o.operands.isEmpty then ["."] else o.operands
  let fs ← Machine.files
  let mut status := 0
  let mut plain : List (Bytes × Bytes) := []
  let mut deep : List (Bytes × Place) := []
  for path in paths do
    let followed ← nodeAt .follow path
    let kept ← nodeAt .keep path
    let keeps := o.has "d" || (o.has "F" && !o.has "H" && !o.has "L")
    let found := if keeps then kept else match followed with
      | .ok found => .ok found
      | .error _ => kept
    match found with
    | .error e =>
      complain name ("cannot access " ++ quoted path ++ ": " ++ Machine.reason e)
      status := 2
    | .ok (place, .directory) =>
      if o.has "d" then plain := (path, style.mark path .directory) :: plain
      else deep := (path, place) :: deep
    | .ok (_, node) =>
      let shown := match kept with
        | .ok (_, kept) => kept
        | .error _ => node
      plain := (path, style.mark path shown) :: plain
  let order {β : Type} (es : List (Bytes × β)) : List (Bytes × β) :=
    let sorted := es.reverse.mergeSort fun a b => compareChars a.1.toList b.1.toList != .gt
    if style.reversed then sorted.reverse else sorted
  let files := order plain
  let dirs := order deep
  say (style.row (files.map Prod.snd))
  let titled := style.deep || 1 < paths.length
  for ((path, place), i) in dirs.zipIdx do
    let first := i = 0 && files.isEmpty
    if style.deep then say (listDeep style fs 1000 first path place)
    else
      if titled then say ((if first then "" else "\n") ++ path ++ ":\n")
      say (style.row (style.namesOf fs place))
  return status) true 2

def touch : Utility := withOptions
    [flag 'a', flag 'm', flag 'c' "no-create", flag 'f', flag 'h' "no-dereference",
     valued 'd' "date", valued 't', valued 'r' "reference"] fun name o => do
  if o.operands.isEmpty then return ← misuse name "missing file operand"
  let mut status := 0
  for path in o.operands do
    match ← nodeAt .follow path with
    | .ok (place, node) =>
      if !place.isEmpty then Machine.setFiles ((← Machine.files).set place node)
    | .error e =>
      let here ← if o.has "c" && e = .notFound then pure (.ok 0)
        else Machine.openPath path { writes := true, makes := true }
      match here with
      | .ok _ => pure ()
      | .error e =>
        if e = .isDirectory then
          complain name ("setting times of " ++ quoted path ++ ": " ++ Machine.reason .notFound)
        else complain name ("cannot touch " ++ quoted path ++ ": " ++ Machine.reason e)
        status := 1
  return status

def makeDirectoryAt (path : Bytes) : Work (Except SystemFault Unit) := do
  let p ← get
  match p.world.files.makeDirectory p.cwd (Bytes.toText path) with
  | .ok fs =>
    Machine.setFiles fs
    return .ok ()
  | .error e => return .error e

/-- A path and those above it, the highest first. -/
def chainOf (path : Bytes) : List Bytes :=
  let rec go (before : List Char) : List Char → List Bytes
    | [] => if before.isEmpty then [] else [String.ofList before.reverse]
    | '/' :: rest =>
      let next := match rest with
        | '/' :: _ => true
        | _ => false
      if before.isEmpty || next || before.all (· == '/') then go ('/' :: before) rest
      else String.ofList before.reverse :: go ('/' :: before) rest
    | c :: rest => go (c :: before) rest
  (go [] path.toList).filter fun s => !s.toList.all (· == '/')

def mkdir : Utility := withOptions
    [flag 'p' "parents", valued 'm' "mode", flag 'v' "verbose"] fun name o => do
  if o.operands.isEmpty then return ← misuse name "missing operand"
  let mut status := 0
  for path in o.operands do
    let made (path : Bytes) : Work Unit :=
      if o.has "v" then sayLine (name ++ ": created directory " ++ quoted path) else pure ()
    if o.has "p" then
      let mut stuck := false
      for part in chainOf path do
        if !stuck then
          match ← makeDirectoryAt part with
          | .ok _ => made (trimSlashes part)
          | .error e =>
            if !(← isDirectoryAt part) then
              let e := if e = .alreadyThere && part != path then .notDirectory else e
              complain name ("cannot create directory " ++ quoted part ++ ": " ++ Machine.reason e)
              stuck := true
              status := 1
    else
      match ← makeDirectoryAt path with
      | .ok _ => made path
      | .error e =>
        complain name ("cannot create directory " ++ quoted path ++ ": " ++ Machine.reason e)
        status := 1
  return status

def isEmptyDirectory (fs : FileSystem) (place : Place) : Bool := (fs.below place).isEmpty

/-- Places whose removal the system refuses. -/
def inUse (place : Place) : Bool := place.isEmpty

def removeDirectoryAt (path : Bytes) : Work (Except SystemFault Unit) := do
  match ← nodeAt .keep path with
  | .error e => return .error e
  | .ok (place, .directory) =>
    let fs ← Machine.files
    if lastPart path = "." then return .error (.numbered 22)
    else if !isEmptyDirectory fs place then return .error (.numbered 39)
    else if inUse place then return .error (.numbered 16)
    else
      Machine.setFiles (fs.remove place)
      return .ok ()
  | .ok _ => return .error .notDirectory

def rmdir : Utility := withOptions
    [flag 'p' "parents", flag 'v' "verbose", named "ignore-fail-on-non-empty"] fun name o => do
  if o.operands.isEmpty then return ← misuse name "missing operand"
  let mut status := 0
  for path in o.operands do
    let chain := if o.has "p" then (chainOf path).reverse else [path]
    let mut stuck := false
    for part in chain do
      if !stuck then
        if o.has "v" then sayLine (name ++ ": removing directory, " ++ quoted part)
        match ← removeDirectoryAt part with
        | .ok _ => pure ()
        | .error e =>
          stuck := true
          if !(o.has "ignore-fail-on-non-empty" && e = .numbered 39) then
            let what := if part = path then "failed to remove " else "failed to remove directory "
            complain name (what ++ quoted part ++ ": " ++ Machine.reason e)
            status := 1
  return status

/-- Tell about what is removed, that which lies deepest first. -/
def tellRemoved (fs : FileSystem) : Nat → Bytes → Place → Work Unit
  | 0, _, _ => return
  | n + 1, path, place => do
    match fs.node? place with
    | some .directory =>
      for name in namesIn fs place do
        tellRemoved fs n (joinPath path name) (Bytes.toText name :: place)
      sayLine ("removed directory " ++ quoted path)
    | _ => sayLine ("removed " ++ quoted path)

def rm : Utility := withOptions
    [flag 'r' "recursive", flag 'R', flag 'f' "force", flag 'd' "dir", flag 'v' "verbose", flag 'i',
     flag 'I', named "preserve-root" .optional, named "no-preserve-root"] fun name o => do
  let force := o.last? ["f", "i", "I"] = some "f"
  let deep := o.has "r" || o.has "R"
  if o.operands.isEmpty then
    if o.has "f" then return 0 else return ← misuse name "missing operand"
  let mut status := 0
  for path in o.operands do
    let last := lastPart path
    match ← nodeAt .keep path with
    | .error e =>
      if !(force && (e = .notFound || e = .notDirectory)) then
        complain name ("cannot remove " ++ quoted path ++ ": " ++ Machine.reason e)
        status := 1
    | .ok (place, node) =>
      let fs ← Machine.files
      match node with
      | .directory =>
        if deep && (last = "." || last = "..") then
          complain name ("refusing to remove '.' or '..' directory: skipping " ++ quoted path)
          status := 1
        else if deep && inUse place then
          complain name "it is dangerous to operate recursively on '/'"
          Machine.complain (name ++ ": use --no-preserve-root to override this failsafe")
          status := 1
        else if deep then
          if o.has "v" then tellRemoved fs 1000 path place
          Machine.setFiles (fs.remove place)
        else if o.has "d" then
          match ← removeDirectoryAt path with
          | .ok _ => if o.has "v" then sayLine ("removed directory " ++ quoted path)
          | .error e =>
            complain name ("cannot remove " ++ quoted path ++ ": " ++ Machine.reason e)
            status := 1
        else
          complain name ("cannot remove " ++ quoted path ++ ": Is a directory")
          status := 1
      | _ =>
        Machine.setFiles (fs.remove place)
        if o.has "v" then sayLine ("removed " ++ quoted path)
  return status

def copyTree (fs : FileSystem) (source dest : Place) : FileSystem :=
  let moved := (fs.below source).map fun (p, n) =>
    (p.take (p.length - source.length) ++ dest, n)
  let fs := match fs.node? dest with
    | some .directory => fs
    | _ => fs.set dest .directory
  moved.reverse.foldl (fun fs (p, n) =>
    match n, fs.node? p with
    | .directory, some .directory => fs
    | .file content _, some (.file _ executable) => fs.set p (.file content executable)
    | n, _ => fs.set p n) fs

/-- Where several operands lead: the sources, each with its destination. -/
def pairUp (name : Bytes) (o : Options) : Work (Except Nat (List (Bytes × Bytes))) := do
  let into (dir : Bytes) (sources : List Bytes) : List (Bytes × Bytes) :=
    sources.map fun s => (s, joinPath dir (lastPart s))
  match o.value? "t", o.operands with
  | some _, [] => return .error (← misuse name ("missing file operand"))
  | some dir, sources =>
    if ← isDirectoryAt dir then return .ok (into dir sources)
    else
      return .error (← fail name ("target directory " ++ quoted dir ++ ": " ++
        Machine.reason (if (← nodeAt .follow dir).isOk then .notDirectory else .notFound)))
  | none, [] => return .error (← misuse name "missing file operand")
  | none, [source] =>
    return .error (← misuse name ("missing destination file operand after " ++ quoted source))
  | none, operands =>
    let dest := operands.getLast?.getD ""
    let sources := operands.dropLast
    if o.has "T" then
      match sources with
      | [source] => return .ok [(source, dest)]
      | _ => return .error (← misuse name ("extra operand " ++ quoted (operands[2]?.getD "")))
    else if ← isDirectoryAt dest then return .ok (into dest sources)
    else
      match sources with
      | [source] => return .ok [(source, dest)]
      | _ =>
        let there := (← nodeAt .follow dest).isOk
        return .error (← fail name ("target " ++ quoted dest ++ ": " ++
          Machine.reason (if there then .notDirectory else .notFound)))

def copyOne (name : Bytes) (o : Options) (source dest : Bytes) : Work Nat := do
  let deep := o.has "r" || o.has "R" || o.has "a"
  let keepsLinks := o.has "P" || o.has "d" || (deep && !o.has "L")
  match ← nodeAt (if keepsLinks then .keep else .follow) source with
  | .error e => fail name ("cannot stat " ++ quoted source ++ ": " ++ Machine.reason e)
  | .ok (place, node) =>
    let told : Work Unit :=
      if o.has "v" then sayLine (quoted source ++ " -> " ++ quoted dest) else pure ()
    match ← findTarget .followPlain dest with
    | .error e =>
      fail name ("cannot create regular file " ++ quoted dest ++ ": " ++ Machine.reason e)
    | .ok t =>
      let fs ← Machine.files
      match node, t.node? with
      | .directory, there? =>
        if !deep then fail name ("-r not specified; omitting directory " ++ quoted source)
        else if place.isSuffixOf t.place && (t.place != place || there?.isSome) then
          if t.place = place then
            fail name (quoted source ++ " and " ++ quoted dest ++ " are the same file")
          else
            -- the copy is there before it is noticed
            Machine.setFiles (fs.set t.place .directory)
            let target := ", into itself, " ++ quoted dest
            fail name ("cannot copy a directory, " ++ quoted source ++ target)
        else
          match there? with
          | some (.file ..) | some (.link _) =>
            let target := "cannot overwrite non-directory " ++ quoted dest
            fail name (target ++ " with directory " ++ quoted source)
          | _ =>
            Machine.setFiles (copyTree fs place t.place)
            told
            return 0
      | node, some .directory =>
        let _ := node
        fail name ("cannot overwrite directory " ++ quoted dest ++ " with non-directory")
      | .file content executable, there? =>
        if t.place = place then
          fail name (quoted source ++ " and " ++ quoted dest ++ " are the same file")
        else if o.has "n" && there?.isSome then return 0
        else if t.slash then
          fail name ("cannot create regular file " ++ quoted dest ++ ": Not a directory")
        else
          let executable := match there? with
            | some (.file _ x) => if o.has "p" || o.has "a" then executable else x
            | _ => executable
          Machine.setFiles (fs.set t.place (.file content executable))
          told
          return 0
      | .link target, _ =>
        match ← findTarget .keep dest with
        | .ok t =>
          Machine.setFiles (fs.set t.place (.link target))
          told
          return 0
        | .error e =>
          fail name ("cannot create symbolic link " ++ quoted dest ++ ": " ++ Machine.reason e)

def cp : Utility := withOptions
    [flag 'a' "archive", flag 'r' "recursive", flag 'R', flag 'f' "force", flag 'p', flag 'P',
     flag 'd', flag 'L' "dereference", flag 'n' "no-clobber", flag 'v' "verbose",
     flag 'T' "no-target-directory", valued 't' "target-directory", flag 'u' "update", flag 'i',
     flag 'l', flag 's', flag 'x', flag 'H', named "preserve" .optional] fun name o => do
  match ← pairUp name o with
  | .error status => return status
  | .ok pairs =>
    let mut status := 0
    for (source, dest) in pairs do
      let result ← copyOne name o source dest
      if result != 0 then status := result
    return status

def moveOne (name : Bytes) (o : Options) (source dest : Bytes) : Work Nat := do
  match ← nodeAt .keep source with
  | .error e => fail name ("cannot stat " ++ quoted source ++ ": " ++ Machine.reason e)
  | .ok (place, node) =>
    let refused (target : Bytes) : Work Nat :=
      fail name ("cannot move " ++ quoted source ++ " to " ++ target)
    match ← findTarget .keep (if node.isDirectory then trimSlashes dest else dest) with
    | .error e => refused (quoted dest ++ ": " ++ Machine.reason e)
    | .ok t =>
      let fs ← Machine.files
      if t.place = place then
        return ← fail name (quoted source ++ " and " ++ quoted dest ++ " are the same file")
      if o.has "n" && t.node?.isSome then return 0
      if t.slash && !node.isDirectory then
        return ← refused (quoted dest ++ ": Not a directory")
      if node.isDirectory && place.isSuffixOf t.place then
        return ← refused ("a subdirectory of itself, " ++ quoted dest)
      let go : Work Nat := do
        let fs := fs.remove t.place
        let inner := (fs.below place).map fun (p, n) =>
          (p.take (p.length - place.length) ++ t.place, n)
        let fs := inner.foldl (fun fs (p, n) => fs.set p n) ((fs.remove place).set t.place node)
        Machine.setFiles fs
        if o.has "v" then sayLine ("renamed " ++ quoted source ++ " -> " ++ quoted dest)
        return 0
      match node, t.node? with
      | .directory, some .directory =>
        if isEmptyDirectory fs t.place then go
        else fail name ("cannot overwrite " ++ quoted dest ++ ": Directory not empty")
      | .directory, some _ =>
        let target := "cannot overwrite non-directory " ++ quoted dest
        fail name (target ++ " with directory " ++ quoted source)
      | _, some .directory =>
        fail name ("cannot overwrite directory " ++ quoted dest ++ " with non-directory")
      | _, _ => go

def mv : Utility := withOptions
    [flag 'f' "force", flag 'n' "no-clobber", flag 'v' "verbose", flag 'T' "no-target-directory",
     valued 't' "target-directory", flag 'u' "update", flag 'i'] fun name o => do
  match ← pairUp name o with
  | .error status => return status
  | .ok pairs =>
    let mut status := 0
    for (source, dest) in pairs do
      let result ← moveOne name o source dest
      if result != 0 then status := result
    return status

def linkOne (name : Bytes) (o : Options) (target dest : Bytes) : Work Nat := do
  let soft := o.has "s"
  let what := if soft then "symbolic link " else "hard link "
  let arrow := if soft then " -> " else " => "
  match ← findTarget .keep dest with
  | .error e => fail name ("failed to create " ++ what ++ quoted dest ++ ": " ++ Machine.reason e)
  | .ok t =>
    let node ← if soft then pure (Except.ok (Node.link (Bytes.toText target))) else do
      match ← nodeAt .follow target with
      | .error e => pure (.error ("failed to access " ++ quoted target ++ ": " ++ Machine.reason e))
      | .ok (_, .directory) =>
        pure (.error (quotedIfNeeded target ++ ": hard link not allowed for directory"))
      | .ok (_, node) => pure (.ok node)
    match node, t.node? with
    | .error text, _ => fail name text
    | .ok _, some .directory =>
      if o.has "f" then fail name (quoted dest ++ ": cannot overwrite directory")
      else fail name ("failed to create " ++ what ++ quoted dest ++ ": File exists")
    | .ok node, there? =>
      if there?.isSome && !o.has "f" then
        fail name ("failed to create " ++ what ++ quoted dest ++ ": File exists")
      else
        Machine.setFiles ((← Machine.files).set t.place node)
        if o.has "v" then sayLine (quoted dest ++ arrow ++ quoted target)
        return 0

def ln : Utility := withOptions
    [flag 's' "symbolic", flag 'f' "force", flag 'n' "no-dereference", flag 'v' "verbose",
     flag 'T' "no-target-directory", valued 't' "target-directory", flag 'r' "relative", flag 'L',
     flag 'P', flag 'i'] fun name o => do
  let isDir (path : Bytes) : Work Bool := do
    match ← nodeAt (if o.has "n" then .keep else .follow) path with
    | .ok (_, .directory) => return true
    | _ => return false
  match o.value? "t", o.operands with
  | none, [] | some _, [] => misuse name "missing file operand"
  | some dir, targets =>
    let mut status := 0
    for t in targets do status := max status (← linkOne name o t (joinPath dir (lastPart t)))
    return status
  | none, [target] => linkOne name o target ("./" ++ lastPart target)
  | none, operands =>
    let dest := operands.getLast?.getD ""
    let targets := operands.dropLast
    if !o.has "T" && (← isDir dest) then
      let mut status := 0
      for t in targets do status := max status (← linkOne name o t (joinPath dest (lastPart t)))
      return status
    else
      match targets with
      | [target] => linkOne name o target dest
      | _ =>
        let there := (← nodeAt .follow dest).isOk
        fail name ("target " ++ quoted dest ++ ": " ++
          Machine.reason (if there then .notDirectory else .notFound))

/-- How far the parts of a path have to be there. -/
inductive Demand where
  | all
  | allButLast
  | nothing
  deriving DecidableEq

def canonical (demand : Demand) (path : Bytes) : Work (Except SystemFault Bytes) := do
  match ← findTarget .follow path with
  | .ok t =>
    let ok := t.node?.isSome || demand != .all
    if !ok then return .error .notFound
    else if t.slash && t.node?.any (!·.isDirectory) then return .error .notDirectory
    else return .ok (Bytes.ofText t.place.toPath)
  | .error e =>
    if demand = .nothing then
      let p ← get
      let start := if path.startsWith "/" then [] else p.cwd.reverse.map Bytes.ofText
      let steps := (path.splitOn "/").foldl (fun (done : List Bytes) s =>
        if s.isEmpty || s = "." then done
        else if s = ".." then done.dropLast else done ++ [s]) start
      return .ok ("/" ++ "/".intercalate steps)
    else return .error e

def readLink : Utility := withOptions
    [flag 'f' "canonicalize", flag 'e' "canonicalize-existing", flag 'm' "canonicalize-missing",
     flag 'n' "no-newline", flag 'q' "quiet", flag 's' "silent", flag 'v' "verbose",
     flag 'z' "zero"] fun name o => do
  if o.operands.isEmpty then return ← misuse name "missing operand"
  let mut status := 0
  let tail := if o.has "z" then "\x00" else if o.has "n" && o.operands.length = 1 then "" else "\n"
  for path in o.operands do
    let found ← match o.last? ["f", "e", "m"] with
      | some "f" => canonical .allButLast path
      | some "e" => canonical .all path
      | some _ => canonical .nothing path
      | none => do
        match ← nodeAt .keep path with
        | .ok (_, .link target) => pure (.ok (Bytes.ofText target))
        | .ok _ => pure (.error (.numbered 22))
        | .error e => pure (.error e)
    match found with
    | .ok text => say (text ++ tail)
    | .error e =>
      if o.has "v" then complain name (quotedIfNeeded path ++ ": " ++ Machine.reason e)
      status := 1
  return status

def relativePath (base path : Bytes) : Bytes :=
  let parts (s : Bytes) : List Bytes := (s.splitOn "/").filter (!·.isEmpty)
  let rec go : List Bytes → List Bytes → List Bytes
    | b :: bs, p :: ps => if b = p then go bs ps else (b :: bs).map (fun _ => "..") ++ p :: ps
    | bs, ps => bs.map (fun _ => "..") ++ ps
  let steps := go (parts base) (parts path)
  if steps.isEmpty then "." else "/".intercalate steps

def realPath : Utility := withOptions
    [flag 'e' "canonicalize-existing", flag 'm' "canonicalize-missing", flag 'q' "quiet",
     flag 's' "strip", flag 'L', flag 'P', flag 'z' "zero", named "relative-to" .required,
     named "relative-base" .required] fun name o => do
  if o.operands.isEmpty then return ← misuse name "missing operand"
  let demand : Demand := match o.last? ["e", "m", "s"] with
    | some "e" => .all
    | some _ => .nothing
    | none => .allButLast
  let mut status := 0
  for path in o.operands do
    match ← canonical demand path with
    | .ok text =>
      let text ← match o.value? "relative-to" with
        | none => pure text
        | some base => do
          match ← canonical demand base with
          | .ok base => pure (relativePath base text)
          | .error _ => pure text
      say (text ++ (if o.has "z" then "\x00" else "\n"))
    | .error e =>
      if !o.has "q" then complain name (quotedIfNeeded path ++ ": " ++ Machine.reason e)
      status := 1
  return status

def modeOf : Node → Nat
  | .directory => 0o755
  | .file _ executable => if executable then 0o755 else 0o644
  | .link _ => 0o777

/-- The permissions after a change that letters and signs describe. -/
def changeMode? (mask mode : Nat) (directory : Bool) (text : Bytes) : Option Nat :=
  (text.splitOn ",").foldlM (fun mode clause =>
    let cs := clause.toList
    let whos := cs.takeWhile ['u', 'g', 'o', 'a'].contains
    let rec ops (mode : Nat) : Nat → List Char → Option Nat
      | 0, _ => none
      | n + 1, cs =>
        match cs with
        | [] => some mode
        | op :: rest =>
          if ¬ ['+', '-', '='].contains op then none
          else
            let letters := rest.takeWhile fun c => !(['+', '-', '='].contains c)
            let known := letters.all "rwxXstugo".toList.contains
            let bit (c : Char) : Nat := match c with
              | 'r' => 4
              | 'w' => 2
              | 'x' => 1
              | 'X' => if directory || mode &&& 0o111 != 0 then 1 else 0
              | 'u' => mode / 64 % 8
              | 'g' => mode / 8 % 8
              | 'o' => mode % 8
              | _ => 0
            let bits := letters.foldl (fun n c => n ||| bit c) 0
            let field (who : Char) : Nat := match who with
              | 'u' => 64
              | 'g' => 8
              | 'o' => 1
              | _ => 73
            let all := (if whos.isEmpty then ['a'] else whos).foldl (fun n w => n ||| 7 * field w) 0
            let change := (bits * 73) &&& all
            let change := if whos.isEmpty then change &&& (511 - mask) else change
            let mode := match op with
              | '+' => mode ||| change
              | '-' => mode &&& (511 - change)
              | _ => (mode &&& (511 - all)) ||| change
            if known then ops mode n (rest.drop letters.length) else none
    if (cs.drop whos.length).isEmpty then none
    else ops mode cs.length (cs.drop whos.length)) mode

def chmod : Utility := fun name args =>
  -- a mode such as `-x` is no option
  let isMode (s : Bytes) : Bool := match s.toList with
    | '-' :: c :: cs => (c :: cs).all "rwxXst".toList.contains
    | _ => false
  let modes := args.filter isMode
  let others := args.filter fun s => !isMode s
  withOptions [flag 'R' "recursive", flag 'v' "verbose", flag 'c' "changes", flag 'f' "silent",
      named "reference" .required] (fun name o => do
    let (mode?, paths) := match modes, o.operands with
      | m :: _, paths => (some m, paths)
      | [], m :: paths => (some m, paths)
      | [], [] => (none, [])
    match mode?, paths with
    | none, _ => misuse name "missing operand"
    | some m, [] => misuse name ("missing operand after " ++ quoted m)
    | some m, paths =>
      let mask := (← get).mask
      let newMode? (node : Node) : Option Nat :=
        if !m.isEmpty && m.toList.all Format.isOctal && m.length ≤ 5 then
          some (m.toList.foldl (fun n c => 8 * n + (c.toNat - '0'.toNat)) 0)
        else changeMode? mask (modeOf node) node.isDirectory m
      if (newMode? .directory).isNone then return ← misuse name ("invalid mode: " ++ quoted m)
      let mut status := 0
      for path in paths do
        match ← nodeAt .follow path with
        | .error e =>
          if !o.has "f" then
            let dangling := (← nodeAt .keep path).isOk
            if dangling then complain name ("cannot operate on dangling symlink " ++ quoted path)
            else complain name ("cannot access " ++ quoted path ++ ": " ++ Machine.reason e)
          status := 1
        | .ok (place, node) =>
          let fs ← Machine.files
          let all := (place, node) :: (if o.has "R" then fs.below place else [])
          for (p, n) in all do
            if let .file content _ := n then
              let executable := ((newMode? n).getD 0) &&& 0o111 != 0
              Machine.setFiles ((← Machine.files).set p (.file content executable))
      return status) true 1 name others

def makeTemporary : Utility := withOptions
    [flag 'd' "directory", flag 'q' "quiet", flag 'u' "dry-run", valued 'p' "tmpdir", flag 't',
     named "suffix" .required] fun name o => do
  let given := o.operands.headD "tmp.XXXXXXXXXX"
  let inTmp := o.operands.isEmpty || o.has "p" || o.has "t"
  let dir := (o.value? "p").getD ((Machine.lookup? (← get).environment "TMPDIR").getD "/tmp")
  let marks := (given.toList.reverse.takeWhile (· == 'X')).length
  if marks < 3 then
    fail name ("too few X's in template " ++ quoted given)
  else
    let front := (given.dropEnd marks).toString
    let n := (← get).world.nextId
    modify fun p => { p with world.nextId := n + 1 }
    let path := front ++ inBase 10 marks n ++ (o.value? "suffix").getD ""
    let path := if inTmp then joinPath dir path else path
    let made ← if o.has "d" then makeDirectoryAt path
      else do
        match ← Machine.openPath path .createFresh with
        | .ok _ => pure (.ok ())
        | .error e => pure (.error e)
    match made with
    | .ok _ =>
      sayLine path
      return 0
    | .error e =>
      let what := if o.has "d" then "directory" else "file"
      let shown := if inTmp then joinPath dir given else given
      let template := " via template " ++ quoted shown
      fail name ("failed to create " ++ what ++ template ++ ": " ++ Machine.reason e)

def cmp : Utility := withOptions [flag 's' "silent", flag 'l' "verbose", flag 'b'] (fun name o => do
  match o.operands with
  | [] => misuse name "missing operand after 'cmp'" 2
  | a :: rest =>
    let b := rest.headD "-"
    match ← contentOf a, ← contentOf b with
    | .error e, _ => fail name (a ++ ": " ++ Machine.reason e) 2
    | _, .error e => fail name (b ++ ": " ++ Machine.reason e) 2
    | .ok x, .ok y =>
      let (xs, ys) := (x.toList, y.toList)
      match (xs.zip ys).findIdx? fun (c, d) => c != d with
      | some i =>
        let line := (xs.take i).count '\n' + 1
        if !o.has "s" then
          let place := toString (i + 1) ++ ", line " ++ toString line
          sayLine (a ++ " " ++ b ++ " differ: char " ++ place)
        return 1
      | none =>
        if xs.length = ys.length then return 0
        let (short, n, cs) :=
          if xs.length < ys.length then (a, xs.length, xs) else (b, ys.length, ys)
        if !o.has "s" then
          let line := cs.count '\n'
          let place := if cs.getLast? = some '\n' then ", line " ++ toString line
            else ", in line " ++ toString (line + 1)
          complain name ("EOF on " ++ short ++ (if n = 0 then " which is empty"
            else " after byte " ++ toString n ++ place))
        return 1) true 2

end DocLaunch.Tool
