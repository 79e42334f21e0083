import HttpHandler.Text.Basic

/-!
# Query strings

Pairs of names and values in the form `application/x-www-form-urlencoded`.
-/

namespace HttpHandler

def valuesNamed? (name : String) (pairs : List (String × String)) : Option (List String) :=
  match pairs.filterMap fun pair => if pair.1 = name then some pair.2 else none with
  | [] => none
  | values => some values

namespace Query

def ampersand : UInt8 := 0x26
def equals : UInt8 := 0x3D
def plus : UInt8 := 0x2B
def space : UInt8 := 0x20

/-- Decodes `%` with two hexadecimal digits to a byte. A `%` without them stands for itself. -/
def percentDecode : Bytes → Bytes
  | 0x25 :: high :: low :: rest =>
    match Hex.value? high, Hex.value? low with
    | some h, some l => UInt8.ofNat (h * 16 + l) :: percentDecode rest
    | _, _ => 0x25 :: percentDecode (high :: low :: rest)
  | byte :: rest => byte :: percentDecode rest
  | [] => []

def decode (bytes : Bytes) : String :=
  Utf8.decodeLossy (percentDecode (bytes.map fun byte => if byte = plus then space else byte))

def pairOf (piece : Bytes) : String × String :=
  (decode (piece.takeWhile (· != equals)), decode ((piece.dropWhile (· != equals)).drop 1))

/-- The pairs of a query, in order. Empty pieces are skipped. -/
def pairs (query : Bytes) : List (String × String) :=
  ((query.splitOn ampersand).filter (· != [])).map pairOf

end Query

end HttpHandler
