/-!
# Text

Text as bytes in UTF-8, hexadecimal digits, and white space. Reading bytes runs a small automaton over
them; a part that cannot begin or continue a character is reported once, at its greatest length, so that
strict reading refuses it and lossy reading shows one replacement character for it.
-/

namespace HttpHandler

abbrev Bytes := List UInt8

namespace Utf8

def encode (text : String) : Bytes := text.toList.flatMap String.utf8EncodeChar

theorem encode_append (first second : String) :
    encode (first ++ second) = encode first ++ encode second := by
  rw [encode, String.toList_append, List.flatMap_append]
  rfl

inductive State where
  | ready
  /-- Inside a character: the next byte lies in `low` to `high`, `pending` more follow it, and
  `code` holds the bits read so far. -/
  | within (pending : Nat) (low high : UInt8) (code : Nat)
deriving Repr, DecidableEq

/-- Reads a byte that begins a character. What is finished is a character, or `none` for a byte that
begins none. -/
def State.start (byte : UInt8) : List (Option Char) × State :=
  if byte < 0x80 then ([some (Char.ofNat byte.toNat)], .ready)
  else if byte < 0xC2 then ([none], .ready)
  else if byte < 0xE0 then ([], .within 0 0x80 0xBF (byte.toNat - 0xC0))
  else if byte < 0xF0 then
    ([], .within 1 (if byte = 0xE0 then 0xA0 else 0x80) (if byte = 0xED then 0x9F else 0xBF)
      (byte.toNat - 0xE0))
  else if byte < 0xF5 then
    ([], .within 2 (if byte = 0xF0 then 0x90 else 0x80) (if byte = 0xF4 then 0x8F else 0xBF)
      (byte.toNat - 0xF0))
  else ([none], .ready)

/-- Reads one byte. A byte that does not continue the character at hand ends it as invalid and is
read again as the beginning of the next one. -/
def State.step : State → UInt8 → List (Option Char) × State
  | .ready, byte => start byte
  | .within pending low high code, byte =>
    if low ≤ byte ∧ byte ≤ high then
      match pending with
      | 0 => ([some (Char.ofNat (code * 64 + (byte.toNat - 0x80)))], .ready)
      | more + 1 => ([], .within more 0x80 0xBF (code * 64 + (byte.toNat - 0x80)))
    else
      (none :: (start byte).1, (start byte).2)

/-- The characters of a byte string, each greatest invalid part as one `none`. -/
def scan : State → Bytes → List (Option Char)
  | .ready, [] => []
  | .within .., [] => [none]
  | state, byte :: rest => (state.step byte).1 ++ scan (state.step byte).2 rest

def decode? (bytes : Bytes) : Option String :=
  ((scan .ready bytes).mapM id).map String.ofList

/-- The text of a byte string with U+FFFD for every greatest invalid part. -/
def decodeLossy (bytes : Bytes) : String :=
  String.ofList ((scan .ready bytes).map (·.getD '\uFFFD'))

end Utf8

/-- The number that a hexadecimal digit stands for. -/
def Hex.value? (digit : UInt8) : Option Nat :=
  if 0x30 ≤ digit ∧ digit ≤ 0x39 then some (digit.toNat - 0x30)
  else if 0x41 ≤ digit ∧ digit ≤ 0x46 then some (digit.toNat - 0x41 + 10)
  else if 0x61 ≤ digit ∧ digit ≤ 0x66 then some (digit.toNat - 0x61 + 10)
  else none

namespace Text

/-- The twenty-five code points with the property White_Space. -/
def blankCodePoints : List Nat :=
  [0x09, 0x0A, 0x0B, 0x0C, 0x0D, 0x20, 0x85, 0xA0, 0x1680,
   0x2000, 0x2001, 0x2002, 0x2003, 0x2004, 0x2005, 0x2006, 0x2007, 0x2008, 0x2009, 0x200A,
   0x2028, 0x2029, 0x202F, 0x205F, 0x3000]

def isBlank (c : Char) : Bool := blankCodePoints.contains c.toNat

def trimEnd (characters : List Char) : List Char :=
  (characters.reverse.dropWhile isBlank).reverse

def trim (characters : List Char) : List Char := trimEnd (characters.dropWhile isBlank)

end Text

end HttpHandler
