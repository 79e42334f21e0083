import HttpHandler.Json.Numeral
import HttpHandler.Value

/-!
# Reading typed values

A decoder reads one type from the syntax of a document. Documents that nest too deeply are refused
where they are looked at; members of an object that no decoder asks for are not looked at.
-/

namespace HttpHandler.Json

open Number

/-- Reads a value of type `α` where `budget` levels of nesting are left. -/
abbrev Decoder (α : Type) := (budget : Nat) → Node → Option α

def nestingLimit : Nat := 128

def Decoder.read {α : Type} (decoder : Decoder α) (bytes : Bytes) : Option α :=
  (Node.read bytes).bind (decoder nestingLimit)

namespace Decoder

variable {α β : Type}

def map (f : α → β) (decoder : Decoder α) : Decoder β := fun budget node =>
  (decoder budget node).map f

def unit : Decoder Unit
  | _, .null => some ()
  | _, _ => none

def bool : Decoder Bool
  | _, .bool b => some b
  | _, _ => none

def string : Decoder String
  | _, .string raw => textOf raw
  | _, _ => none

def char : Decoder Char := fun budget node =>
  match (string budget node).map String.toList with
  | some [c] => some c
  | _ => none

def integer (range : Range) : Decoder Int
  | _, .number numeral =>
    match numeral.quantity? with
    | some (.integer n) => if range.contains n then some n else none
    | _ => none
  | _, _ => none

/-- An integer of 128 bits, read from its digits alone. -/
def bigInteger : Decoder Int
  | _, .number numeral =>
    let magnitude : Int := digitsValue numeral.whole
    let n := if numeral.negative then -magnitude else magnitude
    if numeral.fraction.isNone && numeral.exponent.isNone && (Range.signed 128).contains n then
      some n
    else none
  | _, _ => none

def double : Decoder Nat
  | _, .number numeral =>
    numeral.quantity?.map fun
      | .integer n => Format.double.ofInt n
      | .fraction bits => bits
  | _, _ => none

/-- A floating-point value of 32 bits, by way of 64 bits unless it is an integer. -/
def single : Decoder Nat
  | _, .number numeral =>
    numeral.quantity?.map fun
      | .integer n => Format.single.ofInt n
      | .fraction bits => Format.single.ofDatum (Format.double.datum bits)
  | _, _ => none

def option (decoder : Decoder α) : Decoder (Option α)
  | _, .null => some none
  | budget, node => (decoder budget node).map some

def list (decoder : Decoder α) : Decoder (List α)
  | budget, .array elements => if budget ≤ 1 then none else elements.mapM (decoder (budget - 1))
  | _, _ => none

/-- The members of an object under the given names. A name that occurs twice is refused, and so is a
key that is no text; other members are passed over. -/
def membersNamed (names : List String) : List (Bytes × Node) → Option (List (String × Node))
  | [] => some []
  | (raw, node) :: rest => do
    let key ← textOf raw
    let others ← membersNamed names rest
    if key ∈ names then
      if (others.lookup key).isSome then none else pure ((key, node) :: others)
    else pure others

/-- The fields of a structure: the members of an object by name, or the elements of an array by
position, of which at least `least` must be there. -/
def fields (names : List String) (least : Nat) : Node → Option (List (String × Node))
  | .object members => membersNamed names members
  | .array elements =>
    if least ≤ elements.length ∧ elements.length ≤ names.length then some (names.zip elements)
    else none
  | _ => none

def textField (name : String) : Decoder String := fun budget node => do
  let found ← fields [name] 1 node
  let field ← found.lookup name
  string budget field

end Decoder

/-- Inserts a member that precedes all others in the text. -/
def insertEarlier (key : String) (value : Value) : List (String × Value) → List (String × Value)
  | [] => [(key, value)]
  | (other, kept) :: rest =>
    if key < other then (key, value) :: (other, kept) :: rest
    else if key = other then (other, kept) :: rest
    else (other, kept) :: insertEarlier key value rest

mutual

/-- Any document as a value. The members of an object are ordered by key, the last of several with
one key counting. -/
def valueOf (budget : Nat) : Node → Option Value
  | .null => some .null
  | .bool b => some (.bool b)
  | .number numeral =>
    numeral.quantity?.map fun
      | .integer n => .ofInteger n
      | .fraction bits => .double bits
  | .string raw => (textOf raw).map .text
  | .array elements =>
    if budget ≤ 1 then none else (valuesOf (budget - 1) elements).map .list
  | .object members =>
    if budget ≤ 1 then none
    else (entriesOf (budget - 1) members).map fun entries =>
      .record (entries.map fun (key, value) => (.text key, value))

def valuesOf (budget : Nat) : List Node → Option (List Value)
  | [] => some []
  | node :: rest => do
    let value ← valueOf budget node
    let others ← valuesOf budget rest
    pure (value :: others)

def entriesOf (budget : Nat) : List (Bytes × Node) → Option (List (String × Value))
  | [] => some []
  | (raw, node) :: rest => do
    let key ← textOf raw
    let value ← valueOf budget node
    let others ← entriesOf budget rest
    pure (insertEarlier key value others)

end

end HttpHandler.Json
