import DocLaunch.Shell.Arithmetic
import DocLaunch.Shell.Fields
import DocLaunch.Shell.State

namespace DocLaunch.Shell

open Machine (Bytes)

/-- Runs a script apart and gives what it wrote. -/
abbrev Capture := Script → Act Bytes

/-- How a word is used, which decides what its parts become. -/
structure Use where
  /-- It may become several arguments. -/
  splits : Bool
  /-- Home directories are put in, also behind colons in a value. -/
  homes : Bool := true
  inValue : Bool := false

def Use.arguments : Use := { splits := true }
def Use.value : Use := { splits := false, inValue := true }
def Use.single : Use := { splits := false }
def Use.plain : Use := { splits := false, homes := false }

/-- A text that becomes part of a word: quoted, or open to being split. -/
def spread (quoted splits : Bool) (s : Bytes) : List Atom :=
  if quoted then .mark :: Atom.ofText true false s.toList
  else Atom.ofText false splits s.toList ++ (if splits then [.edge] else [])

def optionLetters : List (Char × String) :=
  [('e', "errexit"), ('f', "noglob"), ('I', "ignoreeof"), ('i', "interactive"), ('m', "monitor"),
   ('n', "noexec"), ('s', "stdin"), ('x', "xtrace"), ('v', "verbose"), ('V', "vi"), ('E', "emacs"),
   ('C', "noclobber"), ('a', "allexport"), ('b', "notify"), ('u', "nounset"),
   ('p', "privileged"), ('l', "nolog"),
   ('d', "debug")]

/-- The value of a parameter in one text, if it is set. -/
def parameterValue? (p : Parameter) : Act (Option Bytes) := do
  let s ← get
  match p with
  | .named name => value? name
  | .position 0 => return some s.name
  | .position (n + 1) => return s.args[n]?
  | .each => return some (" ".intercalate s.args)
  | .joined =>
    let between := match s.bindings.lookup "IFS" with
      | some { value? := some ifs, .. } => String.ofList (ifs.toList.take 1)
      | _ => " "
    return some (between.intercalate s.args)
  | .count => return some (toString s.args.length)
  | .status => return some (toString s.status)
  | .process => return some (toString s.mainId)
  | .lastJob => return s.lastJob.map toString
  | .flags =>
    return some (String.ofList ((optionLetters.map Prod.fst).reverse.filter s.options.contains))

def parameterName : Parameter → String
  | .named name => name
  | .position n => toString n
  | .each => "@"
  | .joined => "*"
  | .count => "#"
  | .status => "?"
  | .process => "$"
  | .lastJob => "!"
  | .flags => "-"

def argumentAtoms (quoted : Bool) (use : Use) (p : Parameter) : Act (List Atom) := do
  let s ← get
  if quoted && p = .each && use.splits then
    let each := s.args.map fun a => .mark :: Atom.ofText true false a.toList
    return (each.intersperse [.cut]).flatten
  else if !quoted && use.splits then
    let each := s.args.map fun a => Atom.ofText false true a.toList
    return (each.intersperse [.softCut]).flatten ++ [.edge]
  else
    let between := match (← binding? "IFS") with
      | some { value? := some ifs, .. } => String.ofList (ifs.toList.take 1)
      | _ => " "
    return Atom.ofText quoted false (between.intercalate s.args).toList

/-- The atoms of a parameter that is set. -/
def parameterAtoms (quoted : Bool) (use : Use) (p : Parameter) (value : Bytes) :
    Act (List Atom) :=
  match p with
  | .each | .joined => argumentAtoms quoted use p
  | _ => return spread quoted use.splits value

/-- The home directory that a tilde and a name stand for. -/
def home? (name : List Char) : Act (Option Bytes) := do
  if name.isEmpty then value? "HOME"
  else if name = "root".toList then return some "/root"
  else return none

def expandHome (inValue : Bool) (cs : List Char) (followed : Bool) : Act (List Atom) := do
  match cs with
  | '~' :: rest =>
    let ends (c : Char) : Bool := c == '/' || (inValue && c == ':')
    let name := rest.takeWhile fun c => !ends c
    let after := rest.drop name.length
    if after.isEmpty && followed then return Atom.ofText false false cs
    match ← home? name with
    | some dir => return Atom.ofText true false dir.toList ++ Atom.ofText false false after
    | none => return Atom.ofText false false cs
  | _ => return Atom.ofText false false cs

def splitColons (cs : List Char) : List (List Char) :=
  match cs with
  | [] => [[]]
  | c :: rest =>
    match splitColons rest with
    | part :: parts => if c = ':' then [c] :: part :: parts else (c :: part) :: parts
    | [] => [[c]]

/-- Unquoted text at the start of a word, or within a value. -/
def expandText (use : Use) (atStart followed : Bool) (splits : Bool) (cs : List Char) :
    Act (List Atom) := do
  let plain (cs : List Char) := Atom.ofText false splits cs
  if !use.homes then return plain cs
  else if use.inValue then
    let (front, cs) := match splitAssignment? cs with
      | some (name, value) => if atStart then (name.toList ++ ['='], value) else ([], cs)
      | none => ([], cs)
    let parts := splitColons cs
    let last := parts.length - 1
    let done ← parts.mapIdxM fun i part =>
      if i = 0 && !atStart then return plain part
      else expandHome true part (followed && i = last)
    return plain front ++ done.flatten
  else if atStart && cs.head? = some '~' then expandHome false cs followed
  else return plain cs

/-- Evaluate an expression with numbers in variables. -/
def evaluateText (text : Bytes) : Act Int := do
  let complaint (message : String) : String :=
    "arithmetic expression: " ++ message ++ ": \"" ++ text ++ "\""
  let numbers : Expression.Variables Act := {
    get := fun name => do
      let text := (← value? name).getD ""
      match Expression.valueOf? text.toList with
      | some n => return n
      | none => fault ("Illegal number: " ++ text)
    set := fun name n => assign name (toString n)
    divisionByZero := fault (complaint "division by zero") }
  match Expression.ofText text.toList with
  | .error e => fault (complaint e)
  | .ok e => e.evaluate numbers

/-- What is used of a substitution: no zero bytes, and no line ends behind it. -/
def withoutEnds (output : Bytes) : Bytes :=
  let cs := output.toList.filter (· != '\x00')
  String.ofList (cs.reverse.dropWhile (· == '\n')).reverse

def notSet {α : Type} (p : Parameter) (message : String := "parameter not set") : Act α :=
  fault (parameterName p ++ ": " ++ message)

mutual

/-- The atoms of a word. Within braces unquoted text may be split as well. -/
def expandWord : Nat → Capture → Use → Bool → Word → Act (List Atom)
  | 0, _, _, _, _ => fault "word nested too deep"
  | n + 1, capture, use, inBraces, w => do
    let last := w.length - 1
    let parts ← w.mapIdxM fun i piece => do
      match piece with
      | .text true [] => return [.mark]
      | .text true cs => return Atom.ofText true false cs
      | .text false cs =>
        expandText use (i = 0) (i < last && (cs.all (· != '/'))) (inBraces && use.splits) cs
      | .parameter quoted p form => do
        -- quotes make an argument even of nothing, but not where there are no arguments
        let front := if quoted && p != .each then [Atom.mark] else []
        return front ++ (← expandParameter n capture use quoted p form)
      | .capture quoted body => do
        return spread quoted use.splits (withoutEnds (← capture body))
      | .arithmetic quoted body => do
        let text ← expandWhole n capture .plain body
        return spread quoted use.splits (toString (← evaluateText text))
    return parts.flatten

/-- A word that stays one text. -/
def expandWhole : Nat → Capture → Use → Word → Act Bytes
  | 0, _, _, _ => fault "word nested too deep"
  | n + 1, capture, use, w => do
    return String.ofList (Atom.text [' '] (← expandWord n capture use false w))

def expandParameter : Nat → Capture → Use → Bool → Parameter → Form → Act (List Atom)
  | 0, _, _, _, _, _ => fault "word nested too deep"
  | n + 1, capture, use, quoted, p, form => do
    let value? ← parameterValue? p
    let found (orEmpty : Bool) : Option Bytes :=
      value?.filter fun v => !(orEmpty && v.isEmpty)
    let inner (w : Word) : Act (List Atom) := expandWord n capture use true w
    let demanded : Act (Option Bytes) := do
      if value?.isNone && (← hasOption 'u') then notSet p else return value?
    match form with
    | .wrong => fault "Bad substitution"
    | .plain =>
      match ← demanded with
      | some v => parameterAtoms quoted use p v
      | none => return []
    | .size =>
      let size := ((← demanded).getD "").length
      return spread quoted use.splits (toString size)
    | .default orEmpty w =>
      match found orEmpty with
      | some v => parameterAtoms quoted use p v
      | none => inner w
    | .instead orEmpty w => if (found orEmpty).isSome then inner w else return []
    | .assigned orEmpty w =>
      match found orEmpty with
      | some v => parameterAtoms quoted use p v
      | none =>
        let v ← expandWhole n capture { use with splits := false } w
        match p with
        | .named name =>
          assign name v
          return spread quoted use.splits v
        | p => fault (parameterName p ++ ": bad variable name")
    | .required orEmpty w =>
      match found orEmpty with
      | some v => parameterAtoms quoted use p v
      | none =>
        if w.isEmpty then notSet p ("parameter not set" ++ if orEmpty then " or null" else "")
        else notSet p (← expandWhole n capture { use with splits := false } w)
    | .trimmed atEnd long w =>
      match ← demanded with
      | none => return []
      | some v =>
        let pattern := Atom.pattern [' '] (← expandWord n capture .single false w)
        return spread quoted use.splits (String.ofList (pattern.trim atEnd long v.toList))

end

/-- Words nest no deeper. -/
def maxNesting : Nat := 1000

def expandSingle (capture : Capture) (use : Use) (w : Word) : Act Bytes :=
  expandWhole maxNesting capture use w

def expandPattern (capture : Capture) (w : Word) : Act Pattern := do
  return Atom.pattern [' '] (← expandWord maxNesting capture .single false w)

/-- The arguments that a field stands for: the files that it fits, or itself. -/
def expandField (field : Pattern) : Act (List Bytes) := do
  let itself := [String.ofList field.text]
  if !field.hasSigns || (← hasOption 'f') then return itself
  let p := (← get).process
  match field.paths p.world.files p.cwd with
  | [] => return itself
  | found => return found

/-- The arguments that a word stands for. -/
def expandArguments (capture : Capture) (w : Word) : Act (List Bytes) := do
  let atoms ← expandWord maxNesting capture .arguments false w
  let fields := Fields.split (← separators) atoms
  return (← fields.mapM expandField).flatten

end DocLaunch.Shell
