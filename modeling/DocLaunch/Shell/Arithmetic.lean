namespace DocLaunch.Shell

/-- Operators with two operands; those of comparison give 1 or 0. -/
inductive BinaryOperator where
  | multiply | divide | remainder
  | add | subtract
  | shiftLeft | shiftRight
  | less | lessEqual | greater | greaterEqual
  | equal | unequal
  | bitAnd | bitXor | bitOr
  deriving DecidableEq, Repr

inductive Expression where
  | number (n : Int)
  | named (name : String)
  | negative (e : Expression)
  | not (e : Expression)
  | complement (e : Expression)
  | binary (op : BinaryOperator) (a b : Expression)
  /-- The second operand counts only if the first one holds, or only if it does not. -/
  | and (a b : Expression)
  | or (a b : Expression)
  | choice (condition yes no : Expression)
  | assign (name : String) (op? : Option BinaryOperator) (e : Expression)
  deriving DecidableEq, Repr

namespace Expression

/-- The number of 64 bits that a whole number leaves. -/
def wrap (n : Int) : Int := n.bmod 18446744073709551616

def ofBool (b : Bool) : Int := if b then 1 else 0

def bitwise (f : Nat → Nat → Nat) (a b : Int) : Int :=
  wrap (f (a.emod 18446744073709551616).toNat (b.emod 18446744073709551616).toNat)

def combine? (op : BinaryOperator) (a b : Int) : Option Int :=
  match op with
  | .multiply => some (wrap (a * b))
  | .divide => if b = 0 then none else some (wrap (a.tdiv b))
  | .remainder => if b = 0 then none else some (a.tmod b)
  | .add => some (wrap (a + b))
  | .subtract => some (wrap (a - b))
  | .shiftLeft => some (wrap (a * Nat.pow 2 (b.emod 64).toNat))
  | .shiftRight => some (a.fdiv (Nat.pow 2 (b.emod 64).toNat))
  | .less => some (ofBool (a < b))
  | .lessEqual => some (ofBool (a ≤ b))
  | .greater => some (ofBool (b < a))
  | .greaterEqual => some (ofBool (b ≤ a))
  | .equal => some (ofBool (a = b))
  | .unequal => some (ofBool (a ≠ b))
  | .bitAnd => some (bitwise Nat.land a b)
  | .bitXor => some (bitwise Nat.xor a b)
  | .bitOr => some (bitwise Nat.lor a b)

inductive Token where
  | number (n : Int)
  | name (s : String)
  | sign (s : String)
  deriving DecidableEq, Repr

/-- Signs, longer ones first. -/
def signs : List String :=
  ["<<=", ">>=", "<<", ">>", "<=", ">=", "==", "!=", "&&", "||", "+=", "-=", "*=", "/=", "%=", "&=",
   "^=", "|=", "+", "-", "*", "/", "%", "<", ">", "=", "!", "~", "&", "^", "|", "?", ":", "(", ")"]

def digit? (c : Char) : Option Nat :=
  if c.isDigit then some (c.toNat - '0'.toNat)
  else if 'a' ≤ c ∧ c ≤ 'f' then some (c.toNat - 'a'.toNat + 10)
  else if 'A' ≤ c ∧ c ≤ 'F' then some (c.toNat - 'A'.toNat + 10)
  else none

def readDigits (base : Nat) (cs : List Char) : Option (Nat × List Char) :=
  let digits := cs.takeWhile fun c => (digit? c).any (· < base)
  if digits.isEmpty then none
  else some (digits.foldl (fun n c => base * n + (digit? c).getD 0) 0, cs.drop digits.length)

def greatest : Nat := 9223372036854775807

/-- A number in the base that its first digits tell; one that is too great is the greatest. -/
def readNumber (cs : List Char) : Option (Nat × List Char) :=
  let result := match cs with
    | '0' :: x :: rest =>
      if x = 'x' ∨ x = 'X' then (readDigits 16 rest).or (some (0, x :: rest))
      else readDigits 8 cs
    | _ => readDigits 10 cs
  result.map fun (n, rest) => (min n greatest, rest)

def readTokens : Nat → List Char → Option (List Token)
  | 0, _ => none
  | n + 1, cs =>
    match cs with
    | [] => some []
    | c :: rest =>
      if c = ' ' ∨ c = '\t' ∨ c = '\n' then readTokens n rest
      else if c.isDigit then do
        let (k, rest) ← readNumber cs
        (readTokens n rest).map (.number k :: ·)
      else if c.isAlpha ∨ c = '_' then
        let name := cs.takeWhile fun c => c.isAlphanum || c == '_'
        (readTokens n (cs.drop name.length)).map (.name (String.ofList name) :: ·)
      else do
        let sign ← signs.find? fun s => s.toList.isPrefixOf cs
        (readTokens n (cs.drop sign.length)).map (.sign sign :: ·)

/-- An operator by its sign, and how loosely it binds. -/
def binary? : String → Option (BinaryOperator × Nat)
  | "*" => some (.multiply, 0)
  | "/" => some (.divide, 0)
  | "%" => some (.remainder, 0)
  | "+" => some (.add, 1)
  | "-" => some (.subtract, 1)
  | "<<" => some (.shiftLeft, 2)
  | ">>" => some (.shiftRight, 2)
  | "<" => some (.less, 3)
  | "<=" => some (.lessEqual, 3)
  | ">" => some (.greater, 3)
  | ">=" => some (.greaterEqual, 3)
  | "==" => some (.equal, 4)
  | "!=" => some (.unequal, 4)
  | "&" => some (.bitAnd, 5)
  | "^" => some (.bitXor, 6)
  | "|" => some (.bitOr, 7)
  | _ => none

/-- The loosest of the operators that always use both operands. -/
def loosest : Nat := 7

/-- The operator of a sign that also assigns. -/
def assigning? : String → Option (Option BinaryOperator)
  | "=" => some none
  | "*=" => some (some .multiply)
  | "/=" => some (some .divide)
  | "%=" => some (some .remainder)
  | "+=" => some (some .add)
  | "-=" => some (some .subtract)
  | "<<=" => some (some .shiftLeft)
  | ">>=" => some (some .shiftRight)
  | "&=" => some (some .bitAnd)
  | "^=" => some (some .bitXor)
  | "|=" => some (some .bitOr)
  | _ => none

/-- Reading gives an expression and what follows it, or says what is missing. -/
abbrev Read := Except String (Expression × List Token)

mutual

def readPrimary : Nat → List Token → Read
  | 0, _ => .error "expecting primary"
  | n + 1, ts =>
    match ts with
    | .number k :: rest => .ok (.number k, rest)
    | .name s :: rest => .ok (.named s, rest)
    | .sign "(" :: rest => do
      let (e, rest) ← readAssignment n rest
      match rest with
      | .sign ")" :: rest => .ok (e, rest)
      | _ => .error "expecting ')'"
    | .sign "+" :: rest => readPrimary n rest
    | .sign "-" :: rest => (readPrimary n rest).map fun (e, rest) => (.negative e, rest)
    | .sign "!" :: rest => (readPrimary n rest).map fun (e, rest) => (.not e, rest)
    | .sign "~" :: rest => (readPrimary n rest).map fun (e, rest) => (.complement e, rest)
    | _ => .error "expecting primary"

/-- Operands with operators between them that bind no looser than a bound. -/
def readBinary : Nat → Nat → List Token → Read
  | 0, _, _ => .error "expecting primary"
  | n + 1, bound, ts => do
    let (a, rest) ← match bound with
      | 0 => readPrimary n ts
      | bound + 1 => readBinary n bound ts
    readOperands n bound a rest

def readOperands : Nat → Nat → Expression → List Token → Read
  | 0, _, _, _ => .error "expecting primary"
  | n + 1, bound, a, ts =>
    match ts with
    | .sign s :: rest =>
      match binary? s with
      | some (op, level) =>
        if level = bound then do
          let (b, rest) ← match bound with
            | 0 => readPrimary n rest
            | bound + 1 => readBinary n bound rest
          readOperands n bound (.binary op a b) rest
        else .ok (a, ts)
      | none => .ok (a, ts)
    | _ => .ok (a, ts)

def readAnd : Nat → List Token → Read
  | 0, _ => .error "expecting primary"
  | n + 1, ts => do
    let (a, rest) ← readBinary n loosest ts
    match rest with
    | .sign "&&" :: rest =>
      let (b, rest) ← readAnd n rest
      .ok (.and a b, rest)
    | _ => .ok (a, rest)

def readOr : Nat → List Token → Read
  | 0, _ => .error "expecting primary"
  | n + 1, ts => do
    let (a, rest) ← readAnd n ts
    match rest with
    | .sign "||" :: rest =>
      let (b, rest) ← readOr n rest
      .ok (.or a b, rest)
    | _ => .ok (a, rest)

def readChoice : Nat → List Token → Read
  | 0, _ => .error "expecting primary"
  | n + 1, ts => do
    let (a, rest) ← readOr n ts
    match rest with
    | .sign "?" :: rest =>
      let (b, rest) ← readAssignment n rest
      match rest with
      | .sign ":" :: rest =>
        let (c, rest) ← readChoice n rest
        .ok (.choice a b c, rest)
      | _ => .error "expecting ':'"
    | _ => .ok (a, rest)

def readAssignment : Nat → List Token → Read
  | 0, _ => .error "expecting primary"
  | n + 1, ts =>
    match ts with
    | .name s :: .sign sign :: rest =>
      match assigning? sign with
      | some op? => do
        let (e, rest) ← readAssignment n rest
        .ok (.assign s op? e, rest)
      | none => readChoice n ts
    | _ => readChoice n ts

end

def ofText (text : List Char) : Except String Expression := do
  match readTokens (text.length + 1) text with
  | none => .error "expecting EOF"
  | some ts =>
    let (e, rest) ← readAssignment (20 * (ts.length + 1)) ts
    if rest.isEmpty then .ok e else .error "expecting EOF"

/-- What evaluation needs: variables, and a way to fail. -/
structure Variables (m : Type → Type) where
  get : String → m Int
  set : String → Int → m Unit
  divisionByZero : m Int

def evaluate {m : Type → Type} [Monad m] (v : Variables m) : Expression → m Int
  | number n => pure n
  | named name => v.get name
  | negative e => return wrap (-(← evaluate v e))
  | not e => return ofBool ((← evaluate v e) = 0)
  | complement e => return -(← evaluate v e) - 1
  | binary op a b => do
    let x ← evaluate v a
    let y ← evaluate v b
    match combine? op x y with
    | some z => pure z
    | none => v.divisionByZero
  | and a b => do
    if (← evaluate v a) = 0 then return 0
    else return ofBool ((← evaluate v b) ≠ 0)
  | or a b => do
    if (← evaluate v a) ≠ 0 then return 1
    else return ofBool ((← evaluate v b) ≠ 0)
  | choice c a b => do
    if (← evaluate v c) ≠ 0 then evaluate v a else evaluate v b
  | assign name op? e => do
    let y ← evaluate v e
    let z ← match op? with
      | none => pure y
      | some op => do
        match combine? op (← v.get name) y with
        | some z => pure z
        | none => v.divisionByZero
    v.set name z
    return z

/-- A number as variables hold it: blank space, a sign, digits, blank space. Nothing is zero. -/
def valueOf? (text : List Char) : Option Int :=
  let isSpace (c : Char) : Bool := c == ' ' || ('\t' ≤ c && c ≤ '\r')
  let cs := text.dropWhile isSpace
  let (minus, cs) := match cs with
    | '-' :: cs => (true, cs)
    | '+' :: cs => (false, cs)
    | cs => (false, cs)
  match readNumber cs with
  | none => if text.all isSpace then some 0 else none
  | some (n, rest) =>
    if rest.all isSpace then some (if minus then -(n : Int) else n) else none

end Expression
end DocLaunch.Shell
