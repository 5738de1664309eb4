namespace DocLaunch.Machine

/-- A text whose characters are below 256. -/
abbrev Bytes := String

namespace Bytes

def isPlain (s : String) : Bool :=
  s.toList.all fun c => c.toNat < 128

def ofByteArray (bytes : ByteArray) : Bytes :=
  bytes.foldl (fun s b => s.push (Char.ofNat b.toNat)) ""

def toByteArray (s : Bytes) : ByteArray :=
  if isPlain s then s.toUTF8
  else s.foldl (fun bytes c => bytes.push (UInt8.ofNat c.toNat)) .empty

def ofText (s : String) : Bytes :=
  if isPlain s then s else ofByteArray s.toUTF8

/-- The number of bytes of a character by its first byte, and the bounds for the second one. -/
def shapeOf? (b : Nat) : Option (Nat × Nat × Nat) :=
  if 0xC2 ≤ b ∧ b ≤ 0xDF then some (2, 0x80, 0xBF)
  else if b = 0xE0 then some (3, 0xA0, 0xBF)
  else if b = 0xED then some (3, 0x80, 0x9F)
  else if 0xE1 ≤ b ∧ b ≤ 0xEF then some (3, 0x80, 0xBF)
  else if b = 0xF0 then some (4, 0x90, 0xBF)
  else if b = 0xF4 then some (4, 0x80, 0x8F)
  else if 0xF1 ≤ b ∧ b ≤ 0xF3 then some (4, 0x80, 0xBF)
  else none

/-- The bytes that go on with a character: at most `n`, the first of them within bounds. -/
def following : Nat → Nat → Nat → List Nat → List Nat
  | 0, _, _, _ => []
  | n + 1, low, high, b :: rest =>
    if low ≤ b ∧ b ≤ high then b :: following n 0x80 0xBF rest else []
  | _, _, _, [] => []

/-- The characters of bytes. What is no character becomes a replacement character. -/
def decode : Nat → List Nat → List Char → List Char
  | 0, _, done => done.reverse
  | _, [], done => done.reverse
  | n + 1, b :: rest, done =>
    if b < 0x80 then decode n rest (Char.ofNat b :: done)
    else
      match shapeOf? b with
      | none => decode n rest ('\ufffd' :: done)
      | some (size, low, high) =>
        let more := following (size - 1) low high rest
        let first := b % (if size = 2 then 32 else if size = 3 then 16 else 8)
        let c := if more.length = size - 1
          then Char.ofNat (more.foldl (fun k b => 64 * k + b % 64) first) else '\ufffd'
        decode n (rest.drop more.length) (c :: done)

def toText (s : Bytes) : String :=
  if isPlain s then s
  else
    let bytes := s.toList.map Char.toNat
    String.ofList (decode bytes.length bytes [])

end Bytes
end DocLaunch.Machine
