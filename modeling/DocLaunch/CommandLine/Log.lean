import DocLaunch.CommandLine.Arguments
import DocLaunch.Json.Basic
import DocLaunch.Regex.Reader
import DocLaunch.Text.Basic
import DocLaunch.Text.Letter
import DocLaunch.World.Event

namespace DocLaunch

def Level.name : Level → String
  | .debug => "DEBUG"
  | .info => "INFO"

def LogValue.toJson? : LogValue → Option Json
  | .text s => some (.string s)
  | .number n => some (.number n 0)
  | .flag b => some (.boolean b)
  | .elapsed => none

namespace Record

def body (r : Record) : Json :=
  .object (("message", .string r.message) ::
    r.fields.filterMap fun e => e.2.toJson?.map fun v => (e.1, v))

def toJson (r : Record) : Json :=
  .object [("level", .string r.level.name), ("fields", r.body), ("target", .string r.area)]

/-- Texts stand in a line without quotes. -/
def plainValue? : LogValue → Option String
  | .text s => some s
  | v => v.toJson?.map fun j => String.ofList j.compact

def line (format : LogFormat) (r : Record) : String :=
  match format with
  | .json => String.ofList r.toJson.compact
  | .text =>
    let fields := r.fields.filterMap fun e => (plainValue? e.2).map fun v => e.1 ++ "=" ++ v
    " ".intercalate (r.level.name :: r.message :: fields)

end Record

/-- What a rule asks of the value of a field. -/
inductive FieldValue where
  | flag (b : Bool)
  /-- A number, which no field of a span is. -/
  | number
  | text (r : Regex)
  deriving DecidableEq, Repr

/-- A rule may ask that there is a field, and which value it has. -/
structure FieldTest where
  name : String
  value? : Option FieldValue
  deriving DecidableEq, Repr

/--
Entries are shown up to a rank: those of areas that begin with `area?`, or those that lie in a span
which the rule knows by its area, its name and a field.
-/
structure LogRule where
  area? : Option String := none
  span? : Option String := none
  field? : Option FieldTest := none
  rank : Nat
  deriving DecidableEq, Repr

structure LogFilter where
  rules : List LogRule
  deriving DecidableEq, Repr

def Level.rank : Level → Nat
  | info => 3
  | debug => 4

namespace FieldValue

/-- An expression for a text has to reach its end where it fits first. -/
def admits : FieldValue → LogValue → Bool
  | flag b, .flag c => b == c
  | text r, .text s =>
    let t : Regex.Subject := { chars := s.toList.toArray }
    (r.search t 0).any fun m => m.stop == t.size
  | _, _ => false

def isNumber (s : String) : Bool :=
  let unsigned := match s.toList with
    | '+' :: cs | '-' :: cs => cs
    | cs => cs
  let whole := unsigned.takeWhile Char.isDigit
  let rest := unsigned.drop whole.length
  let (fraction, rest) := match rest with
    | '.' :: cs => (cs.takeWhile Char.isDigit, cs.dropWhile Char.isDigit)
    | cs => ([], cs)
  let exponent := match rest with
    | [] => true
    | e :: cs =>
      let digits := match cs with
        | '+' :: cs | '-' :: cs => cs
        | cs => cs
      (e == 'e' || e == 'E') && !digits.isEmpty && digits.all Char.isDigit
  (["inf", "infinity", "nan"].contains (String.ofList unsigned).toLower) ||
    (!(whole.isEmpty && fraction.isEmpty) && exponent)

def ofText? (s : String) : Option FieldValue :=
  if s = "true" then some (flag true)
  else if s = "false" then some (flag false)
  else if isNumber s then some number
  else (Regex.ofText? .rich s.toList).map text

end FieldValue

namespace LogRule

/-- The rank up to which a named level shows entries. -/
def rankOf? (name : String) : Option Nat :=
  let digits := match name.toList with
    | '+' :: cs => cs
    | cs => cs
  if !digits.isEmpty && digits.all Char.isDigit then
    (String.ofList digits).toNat?.filter (· ≤ 5)
  else
    match name.toLower with
    | "off" => some 0
    | "error" => some 1
    | "warn" => some 2
    | "info" => some 3
    | "debug" => some 4
    | "trace" => some 5
    | _ => none

/-- The rank of rules that name no level. -/
def everything : Nat := 5

/-- Characters that a rule may begin with. -/
def isFirst (c : Char) : Bool :=
  c == '-' || c == ':' || c == '_' || Text.isLetterOrDigit c

/-- The part of a text between two positions. -/
def cut (text : List Char) (i j : Nat) : String :=
  String.ofList ((text.take j).drop i)

def find? (marks : List Char) (text : List Char) (i : Nat) : Option (Nat × Char) :=
  ((text.drop i).findIdx? marks.contains).bind fun k =>
    text[i + k]?.map fun c => (i + k, c)

def readLevel? (whole : List Char) (i : Nat) : Option Nat :=
  let name := whole.drop i
  if name.isEmpty then some everything else rankOf? (String.ofList name)

/-- The end of a rule that names a span: nothing, or a level. -/
def readEnd? (whole text : List Char) (rule : LogRule) (i : Nat) : Option LogRule :=
  match text[i]? with
  | none => some rule
  | some '=' => (readLevel? whole (i + 1)).map fun rank => { rule with rank }
  | some _ => none

def readField? (text : String) : Option FieldTest :=
  match text.splitOn "=" with
  | name :: value :: _ => (FieldValue.ofText? value).map fun v => ⟨name, some v⟩
  | _ => if text.isEmpty then none else some ⟨text, none⟩

def readSpan? (whole text : List Char) (rule : LogRule) (i : Nat) : Option LogRule := do
  let (j, mark) ← find? [']', '\x7b'] text i
  let name := cut whole i j
  if mark = ']' then readEnd? whole text { rule with span? := some name } (j + 1)
  else
    let (k, _) ← find? ['\x7d'] text (j + 1)
    let field ← readField? (cut whole (j + 1) k)
    let span? := if name.isEmpty then none else some name
    if text[k + 1]? = some ']' then
      readEnd? whole text { rule with span?, field? := some field } (k + 2)
    else none

/--
One rule: a level for all areas; or an area, a span or both, with a level. Blank space around a rule
is not looked at, but positions are counted from its start.
-/
def ofText? (rule : String) : Option LogRule := do
  let whole := rule.toList
  let text := Text.trim whole
  let first ← text.head?
  if first = '[' then readSpan? whole text { rank := everything } 1
  else if !isFirst first then none
  else
    match find? ['=', '['] text 0 with
    | none =>
      match rankOf? rule with
      | some rank => some { rank }
      | none => some { area? := some rule, rank := everything }
    | some (i, mark) =>
      let area? := some (cut whole 0 i)
      if mark = '=' then (readLevel? whole (i + 1)).map fun rank => { area?, rank }
      else readSpan? whole text { area?, rank := everything } (i + 1)

/-- Rules that ask for no span and for no value of a field hold for entries by themselves. -/
def isPlain (r : LogRule) : Bool :=
  r.span?.isNone && r.field?.all fun f => f.value?.isNone

/-- Rules that ask for a span or a field hold for the entries in a span. -/
def isNested (r : LogRule) : Bool :=
  r.span?.isSome || r.field?.isSome

def coversArea (r : LogRule) (area : String) : Bool :=
  r.area?.all fun a => a.toList.isPrefixOf area.toList

/-- Whether a rule holds for an entry by itself. -/
def covers (r : LogRule) (e : Record) : Bool :=
  r.coversArea e.area &&
    r.field?.all fun f => f.name == "message" || e.fields.any fun g => g.1 == f.name

/-- Whether a rule holds for what lies in a span. -/
def coversIn (r : LogRule) (s : Span) : Bool :=
  r.coversArea s.area && r.span?.all (· == s.name) &&
    r.field?.all fun f =>
      match s.fields.lookup f.name with
      | none => false
      | some v => f.value?.all fun test => test.admits v

/-- How much a rule asks for: the longer area counts first, then whether there is a field. -/
def precision (r : LogRule) : Nat × Nat × String :=
  (match r.area? with
    | none => 0
    | some a => a.utf8ByteSize + 1,
   match r.field? with
    | none => 0
    | some _ => 1,
   (r.field?.map FieldTest.name).getD "")

/-- Whether a rule asks for at least as much as another. -/
def atLeast (r s : LogRule) : Bool :=
  let (a, b, c) := r.precision
  let (a', b', c') := s.precision
  a' < a || (a' = a && (b' < b || (b' = b && !(c < c'))))

end LogRule

namespace LogFilter

/-- Without `-v` warnings are shown, of which there are none, and each `-v` adds a level. -/
def ofVerbosity (n : Nat) : LogFilter :=
  ⟨[{ area? := some "docmake", rank := min (n + 2) LogRule.everything }]⟩

/-- Rules between commas. No rules at all leave errors alone. -/
def ofText? (text : String) : Option LogFilter :=
  match (text.splitOn ",").filter (!·.isEmpty) with
  | [] => some ⟨[{ rank := 1 }]⟩
  | rules => (rules.mapM LogRule.ofText?).map LogFilter.mk

/-- The filter of the environment, if it has one that can be read; else that of the verbosity. -/
def choose (text? : Option String) (verbosity : Nat) : LogFilter :=
  (text?.bind ofText?).getD (ofVerbosity verbosity)

/-- Of the rules that hold for an entry the one that asks for most, of equal ones the last. -/
def ruleFor? (f : LogFilter) (e : Record) : Option LogRule :=
  (f.rules.filter fun r => r.isPlain && r.covers e).foldl (fun best r =>
    if best.all r.atLeast then some r else best) none

/-- The ranks up to which a span shows what lies in it. -/
def ranksIn (f : LogFilter) (s : Span) : List Nat :=
  (f.rules.filter fun r => r.isNested && r.coversIn s).map LogRule.rank

def shows (f : LogFilter) (e : Record) : Bool :=
  ((f.ruleFor? e).any fun r => e.level.rank ≤ r.rank) ||
    e.spans.any fun s => (f.ranksIn s).any fun rank => e.level.rank ≤ rank

end LogFilter
end DocLaunch
