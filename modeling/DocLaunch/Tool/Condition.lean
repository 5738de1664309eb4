import DocLaunch.Machine.Basic

namespace DocLaunch.Tool

open Machine (Bytes Process)

namespace Condition

/-- Operators that stand before their operand. -/
def prefixed : List String :=
  ["-r", "-w", "-x", "-e", "-f", "-d", "-c", "-b", "-p", "-u", "-g", "-k", "-s", "-t", "-z", "-n",
   "-h", "-O", "-G", "-L", "-S"]

/-- Operators that stand between two operands. -/
def between : List String :=
  ["=", "!=", "<", ">", "-eq", "-ne", "-ge", "-gt", "-le", "-lt", "-nt", "-ot", "-ef"]

inductive Kind where
  | before
  | middle
  | not
  | and
  | or
  | opening
  | closing
  deriving DecidableEq, Repr

def kind? (s : Bytes) : Option Kind :=
  if prefixed.contains s then some .before
  else if between.contains s then some .middle
  else
    match s with
    | "!" => some .not
    | "-a" => some .and
    | "-o" => some .or
    | "(" => some .opening
    | ")" => some .closing
    | _ => none

def number? (s : Bytes) : Option Int :=
  let isSpace (c : Char) : Bool := c == ' ' || ('\t' ≤ c && c ≤ '\r')
  let cs := s.toList.dropWhile isSpace
  let (minus, cs) := match cs with
    | '-' :: cs => (true, cs)
    | '+' :: cs => (false, cs)
    | cs => (false, cs)
  let digits := cs.takeWhile Char.isDigit
  if digits.isEmpty || !(cs.drop digits.length).all isSpace then none
  else
    let n : Int := digits.foldl (fun n c => 10 * n + (c.toNat - '0'.toNat)) (0 : Nat)
    if 9223372036854775807 < n then none else some (if minus then -n else n)

def number (s : Bytes) : Except Bytes Int :=
  match number? s with
  | some n => .ok n
  | none => .error ("Illegal number: " ++ s)

def ofFile (p : Process) (op : String) (path : Bytes) : Bool :=
  let fs := p.world.files
  let path := Bytes.toText path
  let open? := (Machine.openAlready? path).bind fun fd => p.descriptors.lookup fd
  let node? : Option Node := (fs.status p.cwd path).toOption.map Prod.snd
  match op with
  | "-e" | "-r" | "-w" | "-O" | "-G" => node?.isSome || open?.isSome
  | "-f" => node?.any fun
    | .file .. => path != "/dev/null"
    | _ => false
  | "-d" => node?.any Node.isDirectory
  | "-x" => node?.any fun
    | .file _ executable => executable
    | _ => true
  | "-s" => node?.any fun
    | .file content _ => 0 < content.size
    | _ => true
  | "-h" | "-L" => (fs.find .keep p.cwd path).toOption.any fun t => match t.node? with
    | some (.link _) => true
    | _ => false
  | "-c" => path == "/dev/null"
  | _ => false

def ofOne (p : Process) (op arg : Bytes) : Except Bytes Bool :=
  match op with
  | "-z" => .ok arg.isEmpty
  | "-n" => .ok !arg.isEmpty
  | "-t" => (number arg).map fun _ => false
  | op => .ok (ofFile p op arg)

/-- Whether what stands at a place was changed after what stands at another: it is listed first. -/
def isNewer (fs : FileSystem) : Option Place → Option Place → Bool
  | some a, some b =>
    match fs.nodes.findIdx? (·.1 == a), fs.nodes.findIdx? (·.1 == b) with
    | some i, some j => i < j
    | _, _ => false
  | _, _ => false

def ofTwo (p : Process) (a op b : Bytes) : Except Bytes Bool :=
  let compare (holds : Int → Int → Bool) : Except Bytes Bool := do
    let x ← number a
    let y ← number b
    return holds x y
  let place? (path : Bytes) : Option Place :=
    (p.world.files.status p.cwd (Bytes.toText path)).toOption.map Prod.fst
  match op with
  | "=" => .ok (a == b)
  | "!=" => .ok (a != b)
  | "<" => .ok (a < b)
  | ">" => .ok (b < a)
  | "-eq" => compare (· == ·)
  | "-ne" => compare (· != ·)
  | "-lt" => compare (· < ·)
  | "-le" => compare (· ≤ ·)
  | "-gt" => compare (· > ·)
  | "-ge" => compare (· ≥ ·)
  | "-ef" => .ok ((place? a).isSome && place? a == place? b)
  | "-nt" => .ok (isNewer p.world.files (place? a) (place? b))
  | "-ot" => .ok (isNewer p.world.files (place? b) (place? a))
  | _ => .ok false

/-- An operator before an operand is an operand itself if it has to be. -/
def isOperand (rest : List Bytes) : Bool :=
  match rest with
  | [] => true
  | [_] => false
  | op :: _ => kind? op = some .middle || kind? op = some .and || kind? op = some .or

/-- What the first of the arguments is. -/
def look (args : List Bytes) : Option Kind :=
  match args with
  | [] => none
  | a :: rest =>
    match kind? a with
    | some .before => if isOperand rest then none else some .before
    | some .opening => if rest.isEmpty then none else some .opening
    | k => k

abbrev Result := Except Bytes (Bool × List Bytes)

mutual

def readPrimary (p : Process) : Nat → List Bytes → Result
  | 0, args => .ok (false, args)
  | n + 1, args =>
    match args with
    | [] => .ok (false, [])
    | a :: rest =>
      match look args with
      | some .opening =>
        match look rest with
        | some .closing => .ok (false, rest.drop 1)
        | _ => do
          let (holds, rest) ← readOr p n rest
          match rest with
          | ")" :: rest => .ok (holds, rest)
          | _ => .error "closing paren expected"
      | some .before =>
        match rest with
        | arg :: rest => (ofOne p a arg).map fun holds => (holds, rest)
        | [] => .error (a ++ ": argument expected")
      | _ =>
        match rest with
        | op :: rest' =>
          if look rest = some .middle then
            match rest' with
            | b :: rest => (ofTwo p a op b).map fun holds => (holds, rest)
            | [] => .error (op ++ ": argument expected")
          else .ok (!a.isEmpty, rest)
        | [] => .ok (!a.isEmpty, [])

def readNot (p : Process) : Nat → List Bytes → Result
  | 0, args => .ok (false, args)
  | n + 1, args =>
    match args with
    | _ :: rest =>
      if look args = some .not then
        if rest.isEmpty then .ok (true, rest)
        else (readNot p n rest).map fun (holds, rest) => (!holds, rest)
      else readPrimary p n args
    | [] => .ok (false, [])

def readAnd (p : Process) : Nat → List Bytes → Result
  | 0, args => .ok (false, args)
  | n + 1, args => do
    let (a, rest) ← readNot p n args
    if look rest = some .and then
      let (b, rest) ← readAnd p n (rest.drop 1)
      return (a && b, rest)
    else return (a, rest)

def readOr (p : Process) : Nat → List Bytes → Result
  | 0, args => .ok (false, args)
  | n + 1, args => do
    let (a, rest) ← readAnd p n args
    if look rest = some .or then
      let (b, rest) ← readOr p n (rest.drop 1)
      return (a || b, rest)
    else return (a, rest)

end

def readWhole (p : Process) (args : List Bytes) : Except Bytes Bool := do
  let (holds, rest) ← readOr p (6 * args.length + 6) args
  if rest.isEmpty then return holds
  else throw ((args[args.length - rest.length - 1]?).getD "" ++ ": unexpected operator")

/-- Whether a condition holds. With few arguments an operator in the middle comes first. -/
def holds (p : Process) : Nat → List Bytes → Except Bytes Bool
  | 0, _ => .ok false
  | n + 1, args =>
    match args with
    | [] => .ok false
    | [a, op, b] =>
      if kind? op = some .middle then ofTwo p a op b
      else if a = "(" ∧ b = ")" then holds p n [op]
      else if a = "!" then (holds p n [op, b]).map (!·)
      else readWhole p args
    | [a, b, c, d] =>
      if a = "(" ∧ d = ")" then holds p n [b, c]
      else if a = "!" then (holds p n [b, c, d]).map (!·)
      else readWhole p args
    | args => readWhole p args

end Condition
end DocLaunch.Tool
