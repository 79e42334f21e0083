import HttpHandler.Text.Basic

/-!
# JSON syntax

The grammar of JSON over bytes. Reading keeps numerals as their digits, strings as the bytes between
their quotation marks and objects as the list of their members, so that each reader of a document
decides what a numeral, a string or a repeated key means to it, and a part that no reader looks at only
has to be grammatical.
-/

namespace HttpHandler.Json

structure Numeral where
  negative : Bool
  whole : List Nat
  fraction : Option (List Nat)
  exponent : Option (Bool × List Nat)
deriving Repr, DecidableEq

inductive Node where
  | null
  | bool (b : Bool)
  | number (numeral : Numeral)
  | string (raw : Bytes)
  | array (elements : List Node)
  | object (members : List (Bytes × Node))
deriving Repr

def byte (c : Char) : UInt8 := UInt8.ofNat c.toNat

def isSpace (b : UInt8) : Bool := b == 0x20 || b == 0x09 || b == 0x0A || b == 0x0D

def skipSpace (bytes : Bytes) : Bytes := bytes.dropWhile isSpace

def isDigit (b : UInt8) : Bool := 0x30 ≤ b && b ≤ 0x39

def digitValue (b : UInt8) : Nat := b.toNat - 0x30

def readDigits (bytes : Bytes) : Option (List Nat × Bytes) :=
  match bytes.takeWhile isDigit with
  | [] => none
  | digits => some (digits.map digitValue, bytes.dropWhile isDigit)

/-- The digits before the point: a zero alone, or digits that begin with none. -/
def readWhole (bytes : Bytes) : Option (List Nat × Bytes) :=
  match bytes with
  | 0x30 :: rest => some ([0], rest)
  | _ => readDigits bytes

def readFraction (bytes : Bytes) : Option (Option (List Nat) × Bytes) :=
  match bytes with
  | 0x2E :: rest => (readDigits rest).map fun (digits, rest) => (some digits, rest)
  | _ => some (none, bytes)

def readExponent (bytes : Bytes) : Option (Option (Bool × List Nat) × Bytes) :=
  match bytes with
  | mark :: rest =>
    if mark = 0x65 ∨ mark = 0x45 then
      let (negative, rest) := match rest with
        | 0x2B :: rest => (false, rest)
        | 0x2D :: rest => (true, rest)
        | rest => (false, rest)
      (readDigits rest).map fun (digits, rest) => (some (negative, digits), rest)
    else some (none, bytes)
  | [] => some (none, [])

def readUnsigned (negative : Bool) (bytes : Bytes) : Option (Node × Bytes) := do
  let (whole, rest) ← readWhole bytes
  let (fraction, rest) ← readFraction rest
  let (exponent, rest) ← readExponent rest
  pure (.number { negative, whole, fraction, exponent }, rest)

/-- The bytes of a string up to its closing quotation mark. Escapes are checked and kept. -/
def readString : Bytes → Option (Bytes × Bytes)
  | [] => none
  | 0x22 :: rest => some ([], rest)
  | 0x5C :: 0x75 :: a :: b :: c :: d :: rest =>
    if [a, b, c, d].all fun digit => (Hex.value? digit).isSome then
      (readString rest).map fun (raw, after) => (0x5C :: 0x75 :: a :: b :: c :: d :: raw, after)
    else none
  | 0x5C :: escaped :: rest =>
    if escaped ∈ ['"', '\\', '/', 'b', 'f', 'n', 'r', 't'].map byte then
      (readString rest).map fun (raw, after) => (0x5C :: escaped :: raw, after)
    else none
  | 0x5C :: [] => none
  | other :: rest =>
    if other < 0x20 then none
    else (readString rest).map fun (raw, after) => (other :: raw, after)

def readName (name : String) (node : Node) (bytes : Bytes) : Option (Node × Bytes) :=
  let expected := Utf8.encode name
  if expected.isPrefixOf bytes then some (node, bytes.drop expected.length) else none

mutual

/-- Reads a value, at most `fuel` steps deep. -/
def readValue : Nat → Bytes → Option (Node × Bytes)
  | 0, _ => none
  | fuel + 1, bytes =>
    match skipSpace bytes with
    | [] => none
    | 0x6E :: rest => readName "ull" .null rest
    | 0x74 :: rest => readName "rue" (.bool true) rest
    | 0x66 :: rest => readName "alse" (.bool false) rest
    | 0x22 :: rest => (readString rest).map fun (raw, after) => (.string raw, after)
    | 0x2D :: rest => readUnsigned true rest
    | 0x5B :: rest =>
      match skipSpace rest with
      | 0x5D :: after => some (.array [], after)
      | rest => (readElements fuel rest).map fun (elements, after) => (.array elements, after)
    | 0x7B :: rest =>
      match skipSpace rest with
      | 0x7D :: after => some (.object [], after)
      | rest => (readMembers fuel rest).map fun (members, after) => (.object members, after)
    | bytes => readUnsigned false bytes

def readElements : Nat → Bytes → Option (List Node × Bytes)
  | 0, _ => none
  | fuel + 1, bytes => do
    let (element, rest) ← readValue fuel bytes
    match skipSpace rest with
    | 0x5D :: after => pure ([element], after)
    | 0x2C :: rest =>
      let (elements, after) ← readElements fuel rest
      pure (element :: elements, after)
    | _ => none

def readMembers : Nat → Bytes → Option (List (Bytes × Node) × Bytes)
  | 0, _ => none
  | fuel + 1, bytes =>
    match skipSpace bytes with
    | 0x22 :: rest => do
      let (key, rest) ← readString rest
      match skipSpace rest with
      | 0x3A :: rest =>
        let (value, rest) ← readValue fuel rest
        match skipSpace rest with
        | 0x7D :: after => pure ([(key, value)], after)
        | 0x2C :: rest =>
          let (members, after) ← readMembers fuel rest
          pure ((key, value) :: members, after)
        | _ => none
      | _ => none
    | _ => none

end

/-- Reads a whole document. Every step consumes a byte or descends into a value whose first byte is
still to be read, so twice the length is enough. -/
def Node.read (bytes : Bytes) : Option Node :=
  match readValue (2 * bytes.length + 2) bytes with
  | some (node, rest) => if skipSpace rest = [] then some node else none
  | none => none

def codeUnit (a b c d : UInt8) : Nat :=
  [a, b, c, d].foldl (fun unit digit => unit * 16 + (Hex.value? digit).getD 0) 0

def unescaped (escaped : UInt8) : UInt8 :=
  if escaped = byte 'b' then 0x08
  else if escaped = byte 'f' then 0x0C
  else if escaped = byte 'n' then 0x0A
  else if escaped = byte 'r' then 0x0D
  else if escaped = byte 't' then 0x09
  else escaped

/-- The bytes that the raw bytes of a string stand for. A surrogate must be one of a pair. -/
def unescape : Bytes → Option Bytes
  | [] => some []
  | 0x5C :: 0x75 :: a :: b :: c :: d :: 0x5C :: 0x75 :: e :: f :: g :: h :: rest =>
    let first := codeUnit a b c d
    let second := codeUnit e f g h
    if 0xD800 ≤ first ∧ first < 0xDC00 then
      if 0xDC00 ≤ second ∧ second < 0xE000 then
        let code := 0x10000 + (first - 0xD800) * 0x400 + (second - 0xDC00)
        (unescape rest).map (String.utf8EncodeChar (Char.ofNat code) ++ ·)
      else none
    else if 0xDC00 ≤ first ∧ first < 0xE000 then none
    else
      (unescape (0x5C :: 0x75 :: e :: f :: g :: h :: rest)).map
        (String.utf8EncodeChar (Char.ofNat first) ++ ·)
  | 0x5C :: 0x75 :: a :: b :: c :: d :: rest =>
    let unit := codeUnit a b c d
    if 0xD800 ≤ unit ∧ unit < 0xE000 then none
    else (unescape rest).map (String.utf8EncodeChar (Char.ofNat unit) ++ ·)
  | 0x5C :: escaped :: rest => (unescape rest).map (unescaped escaped :: ·)
  | other :: rest => (unescape rest).map (other :: ·)

def textOf (raw : Bytes) : Option String := (unescape raw).bind Utf8.decode?

end HttpHandler.Json
