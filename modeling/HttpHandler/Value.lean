import HttpHandler.Serialize
import HttpHandler.Number.Integer
import HttpHandler.Number.Shortest

/-!
# Values

The values that first-order plans compute with: what JSON has, with the integer types and both binary
formats kept apart, options, variants of enumerations, and values that refuse to be written.
-/

namespace HttpHandler

inductive Value where
  | null
  | bool (b : Bool)
  | int (n : Int)
  | unsigned (n : Int)
  | big (n : Int)
  | double (bits : Nat)
  | single (bits : Nat)
  | text (text : String)
  | list (elements : List Value)
  /-- An object to be written in the given order, keys of any kind, duplicates kept. -/
  | record (entries : List (Value × Value))
  | none
  | some (value : Value)
  | variant (name : String)
  | failing (message : String)
deriving Repr

namespace Value

open Number

/-- The value of an integer of 64 bits: signed if it fits. -/
def ofInteger (n : Int) : Value :=
  if n ≤ (Range.signed 64).greatest then int n else unsigned n

def fractionJson (text? : Option String) : String := text?.getD "null"

def fractionKey : Option String → Except String String
  | Option.some characters => .ok (Json.quote characters)
  | Option.none => .error "float key must be finite (got NaN or +/-inf)"

def keyError : String := "key must be a string"

/-- The text of an object's key. Integers, booleans, finite fractions and plain variants are quoted;
nothing else but a text can be a key. -/
def keyJson : Value → Except String String
  | text characters => .ok (Json.quote characters)
  | bool b => .ok (Json.quote (toString b))
  | int n => .ok (Json.quote (toString n))
  | unsigned n => .ok (Json.quote (toString n))
  | big n => .ok (Json.quote (toString n))
  | double bits => fractionKey (Format.double.text? .double bits)
  | single bits => fractionKey (Format.single.text? .single bits)
  | variant name => .ok (Json.quote name)
  | some value => keyJson value
  | failing message => .error message
  | null | none | list _ | record _ => .error keyError

mutual

def toJson : Value → Except String String
  | null => .ok "null"
  | bool b => .ok (toString b)
  | int n => .ok (toString n)
  | unsigned n => .ok (toString n)
  | big n => .ok (toString n)
  | double bits => .ok (fractionJson (Format.double.text? .double bits))
  | single bits => .ok (fractionJson (Format.single.text? .single bits))
  | text characters => .ok (Json.quote characters)
  | list elements => do
    let texts ← toJsonElements elements
    pure ("[" ++ Json.commaSeparated texts ++ "]")
  | record entries => do
    let texts ← toJsonEntries entries
    pure ("\x7b" ++ Json.commaSeparated texts ++ "\x7d")
  | none => .ok "null"
  | some value => toJson value
  | variant name => .ok (Json.quote name)
  | failing message => .error message

def toJsonElements : List Value → Except String (List String)
  | [] => .ok []
  | element :: rest => do
    let first ← toJson element
    let others ← toJsonElements rest
    pure (first :: others)

def toJsonEntries : List (Value × Value) → Except String (List String)
  | [] => .ok []
  | (key, value) :: rest => do
    let name ← keyJson key
    let first ← toJson value
    let others ← toJsonEntries rest
    pure ((name ++ ":" ++ first) :: others)

end

instance : Serialize Value := ⟨toJson⟩

/-- Whether two values of a format are shown alike: by their bits, except that all which are no number
are alike. -/
def sameFraction (f : Format) (first second : Nat) : Bool :=
  first == second || (f.datum first == .nan && f.datum second == .nan)

def word? : Value → Option Int
  | int n => Option.some n
  | unsigned n => Option.some n
  | _ => Option.none

mutual

/-- Whether two values are shown alike. Integers of 64 bits are by their number, whether signed or not;
all else must be of the same kind throughout, so that the null value is not the option that holds
nothing. -/
def same : Value → Value → Bool
  | null, null => true
  | none, none => true
  | int n, other => other.word? == Option.some n
  | unsigned n, other => other.word? == Option.some n
  | bool a, bool b => a == b
  | big a, big b => a == b
  | double a, double b => sameFraction .double a b
  | single a, single b => sameFraction .single a b
  | text a, text b => a == b
  | list a, list b => sameElements a b
  | record a, record b => sameEntries a b
  | some a, some b => same a b
  | variant a, variant b => a == b
  | failing a, failing b => a == b
  | _, _ => false

def sameElements : List Value → List Value → Bool
  | [], [] => true
  | a :: as, b :: bs => same a b && sameElements as bs
  | _, _ => false

def sameEntries : List (Value × Value) → List (Value × Value) → Bool
  | [], [] => true
  | (k, a) :: as, (l, b) :: bs => same k l && same a b && sameEntries as bs
  | _, _ => false

end

end Value

end HttpHandler
