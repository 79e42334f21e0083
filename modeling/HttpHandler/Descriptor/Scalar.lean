import HttpHandler.Error
import HttpHandler.Number.Decimal
import HttpHandler.Value

/-!
# Scalars

The types that one raw value can be converted to, and how.
-/

namespace HttpHandler

open Number

structure Variant where
  name : String
  carries : Bool
deriving Repr, DecidableEq

structure Enumeration where
  variants : List Variant
deriving Repr, DecidableEq

namespace Enumeration

def plain (names : List String) : Enumeration := ⟨names.map fun name => ⟨name, false⟩⟩

def quoted (name : String) : String := "`" ++ name ++ "`"

def expectation (enumeration : Enumeration) : String :=
  match enumeration.variants.map fun variant => quoted variant.name with
  | [] => "there are no variants"
  | [only] => "expected " ++ only
  | [first, second] => "expected " ++ first ++ " or " ++ second
  | names => "expected one of " ++ String.intercalate ", " names

/-- Reads a variant by its exact name. One that carries a value cannot be read from a name. -/
def read (enumeration : Enumeration) (raw : String) : Except Cause String :=
  match enumeration.variants.find? fun variant => variant.name == raw with
  | some variant =>
    if variant.carries then
      .error (.foreign "invalid type: unit variant, expected newtype variant")
    else .ok variant.name
  | none =>
    .error (.foreign ("unknown variant " ++ quoted raw ++ ", " ++ enumeration.expectation))

end Enumeration

inductive IntegerKind where
  | byte
  | int
  | long
  | big
deriving Repr, DecidableEq

def IntegerKind.range : IntegerKind → Range
  | .byte => .unsigned 8
  | .int => .signed 32
  | .long => .signed 64
  | .big => .signed 128

inductive Scalar where
  | text
  | integer (kind : IntegerKind)
  /-- A bit pattern of 32 bits. -/
  | single
  /-- A bit pattern of 64 bits. -/
  | double
  | bool
  | char
  | variant (enumeration : Enumeration)
deriving Repr, DecidableEq

namespace Scalar

abbrev Val : Scalar → Type
  | text => String
  | integer _ => Int
  | single => Nat
  | double => Nat
  | bool => Bool
  | char => Char
  | variant _ => String

def readBool (raw : String) : Except Cause Bool :=
  if raw = "true" then .ok true
  else if raw = "false" then .ok false
  else .error (.foreign "provided string was not `true` or `false`")

def readChar (raw : String) : Except Cause Char :=
  match raw.toList with
  | [] => .error (.foreign "cannot parse char from empty string")
  | [c] => .ok c
  | _ => .error (.foreign "too many characters in string")

def explained {φ α : Type} (message : φ → String) : Except φ α → Except Cause α
  | .ok value => .ok value
  | .error error => .error (.foreign (message error))

def read : (scalar : Scalar) → String → Except Cause scalar.Val
  | text, raw => .ok raw
  | integer kind, raw => explained IntegerError.message (kind.range.read raw)
  | single, raw => explained FractionError.message (Format.single.read raw)
  | double, raw => explained FractionError.message (Format.double.read raw)
  | bool, raw => readBool raw
  | char, raw => readChar raw
  | variant enumeration, raw => enumeration.read raw

def toValue : (scalar : Scalar) → scalar.Val → Value
  | text, characters => .text characters
  | integer .big, n => .big n
  | integer _, n => .int n
  | single, bits => .single bits
  | double, bits => .double bits
  | bool, b => .bool b
  | char, c => .text c.toString
  | variant _, name => .variant name

/-- A value as a scalar, if it is of that type. Variants may be given by name. -/
def ofValue? : (scalar : Scalar) → Value → Option scalar.Val
  | text, .text characters => some characters
  | integer _, .int n => some n
  | integer _, .unsigned n => some n
  | integer _, .big n => some n
  | single, .single bits => some bits
  | double, .double bits => some bits
  | bool, .bool b => some b
  | char, .text characters => characters.toList.head?
  | variant _, .text name => some name
  | variant _, .variant name => some name
  | _, _ => none

end Scalar

end HttpHandler
