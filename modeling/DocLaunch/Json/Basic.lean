import DocLaunch.Text.Basic

namespace DocLaunch

/-- A number stands for `mantissa * 10 ^ exponent`. The fields of an object keep their order. -/
inductive Json where
  | null
  | boolean (b : Bool)
  | number (mantissa : Int) (exponent : Int)
  | string (s : String)
  | array (items : List Json)
  | object (fields : List (String × Json))
  deriving Repr, Inhabited

namespace Json

/-- A character between the quotes: quotes, backslashes and controls are escaped. -/
def writeChar (c : Char) : List Char :=
  match c with
  | '"' => ['\\', '"']
  | '\\' => ['\\', '\\']
  | '\x08' => ['\\', 'b']
  | '\t' => ['\\', 't']
  | '\n' => ['\\', 'n']
  | '\x0c' => ['\\', 'f']
  | '\r' => ['\\', 'r']
  | c =>
    if c.toNat < 0x20 then
      ['\\', 'u', '0', '0', Nat.digitChar (c.toNat / 16), Nat.digitChar (c.toNat % 16)]
    else [c]

def writeString (s : String) : List Char :=
  '"' :: (s.toList.flatMap writeChar ++ ['"'])

def writeInt (i : Int) : List Char :=
  (if i < 0 then ['-'] else []) ++ Nat.toDigits 10 i.natAbs

def writeNumber (mantissa exponent : Int) : List Char :=
  writeInt mantissa ++ (if exponent = 0 then [] else 'e' :: writeInt exponent)

mutual

/-- The value on one line, without blank space. -/
def compact : Json → List Char
  | null => ['n', 'u', 'l', 'l']
  | boolean true => ['t', 'r', 'u', 'e']
  | boolean false => ['f', 'a', 'l', 's', 'e']
  | number m e => writeNumber m e
  | string s => writeString s
  | array items => '[' :: compactItems items
  | object fields => '{' :: compactFields fields

def compactItems : List Json → List Char
  | [] => [']']
  | [v] => compact v ++ [']']
  | v :: vs => compact v ++ ',' :: compactItems vs

def compactFields : List (String × Json) → List Char
  | [] => ['}']
  | [(k, v)] => writeString k ++ ':' :: (compact v ++ ['}'])
  | (k, v) :: fields => writeString k ++ ':' :: (compact v ++ ',' :: compactFields fields)

end

/-- A new line, two blanks in for each level. -/
def newLine (level : Nat) : List Char :=
  '\n' :: List.replicate (2 * level) ' '

mutual

/-- The value with a line for each item and field; empty ones stay on theirs. -/
def pretty (level : Nat) : Json → List Char
  | null => ['n', 'u', 'l', 'l']
  | boolean true => ['t', 'r', 'u', 'e']
  | boolean false => ['f', 'a', 'l', 's', 'e']
  | number m e => writeNumber m e
  | string s => writeString s
  | array [] => ['[', ']']
  | array items => '[' :: prettyItems level items
  | object [] => ['{', '}']
  | object fields => '{' :: prettyFields level fields

def prettyItems (level : Nat) : List Json → List Char
  | [] => newLine level ++ [']']
  | [v] => newLine (level + 1) ++ pretty (level + 1) v ++ newLine level ++ [']']
  | v :: vs => newLine (level + 1) ++ pretty (level + 1) v ++ ',' :: prettyItems level vs

def prettyFields (level : Nat) : List (String × Json) → List Char
  | [] => newLine level ++ ['}']
  | [(k, v)] =>
    newLine (level + 1) ++ writeString k ++ [':', ' '] ++ pretty (level + 1) v ++
      newLine level ++ ['}']
  | (k, v) :: fields =>
    newLine (level + 1) ++ writeString k ++ [':', ' '] ++ pretty (level + 1) v ++
      ',' :: prettyFields level fields

end

/-- The first field of the name, if the value is an object that has one. -/
def field? (name : String) : Json → Option Json
  | object fields => fields.lookup name
  | _ => none

end Json
end DocLaunch
