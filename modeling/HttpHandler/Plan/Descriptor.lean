import HttpHandler.Descriptor.Basic
import HttpHandler.Text.Basic

/-!
# Descriptors as data

A descriptor given by its constructor and a list of modifiers. Not every list makes sense: each modifier
applies to some types and shapes only.
-/

namespace HttpHandler

structure AnyReading where
  scalar : Scalar
  shape : Shape
  reading : Reading scalar.Val shape

inductive Conversion where
  | trim
  | quote
  | nonempty
  | length
  | double
  | even
  | shown
deriving Repr, DecidableEq

inductive Modifier where
  | optional
  | repeated
  | csv
  | single
  | cased (letterCase : Text.LetterCase)
  | orElse (value : Value)
  | parse (scalar : Scalar)
  | convert (conversion : Conversion)

namespace Conversion

abbrev int : Scalar := .integer .int

def doubled (n : Int) : Except Cause Int :=
  if IntegerKind.int.range.contains (2 * n) then .ok (2 * n) else .error (.foreign "overflow")

def apply : Conversion → AnyReading → Option AnyReading
  | trim, ⟨.text, .one, reading⟩ =>
    some ⟨.text, .one, .andThen reading fun s => .ok (String.ofList (Text.trim s.toList))⟩
  | quote, ⟨.text, .one, reading⟩ =>
    some ⟨.text, .one, .andThen reading fun s => .ok ("'" ++ s ++ "'")⟩
  | nonempty, ⟨.text, .one, reading⟩ =>
    some ⟨.text, .one, .andThen reading fun s =>
      if s = "" then .error (.foreign "empty") else .ok s⟩
  | length, ⟨.text, .one, reading⟩ =>
    some ⟨int, .one, .andThen reading fun s => .ok ((Utf8.encode s).length : Int)⟩
  | double, ⟨.integer .int, .one, reading⟩ => some ⟨int, .one, .andThen reading doubled⟩
  | even, ⟨.integer .int, .one, reading⟩ =>
    some ⟨int, .one, .andThen reading fun n : Int =>
      if n % 2 = 0 then .ok n else .error (.foreign "odd")⟩
  | shown, ⟨.integer .int, .one, reading⟩ =>
    some ⟨.text, .one, .andThen reading fun n : Int => .ok ("n" ++ toString n)⟩
  | _, _ => none

end Conversion

def Shape.toValue {β : Type} (f : β → Value) : (shape : Shape) → shape.Of β → Value
  | .one, found => f found
  | .many, found => .list (found.map f)
  | .optional _, none => .none
  | .optional shape, some found => .some (shape.toValue f found)

def Shape.ofValue? {β : Type} (f : Value → Option β) :
    (shape : Shape) → Value → Option (shape.Of β)
  | .one, value => f value
  | .many, .list elements => elements.mapM f
  | .optional _, .none => some none
  | .optional _, .null => some none
  | .optional shape, .some value => (shape.ofValue? f value).map some
  | _, _ => none

def Modifier.apply : Modifier → AnyReading → Option AnyReading
  | .optional, ⟨scalar, shape, reading⟩ => some ⟨scalar, .optional shape, .optional reading⟩
  | .repeated, ⟨scalar, .one, reading⟩ => some ⟨scalar, .many, .repeated reading⟩
  | .csv, ⟨scalar, .one, reading⟩ => some ⟨scalar, .many, .csv reading⟩
  | .single, ⟨scalar, .many, reading⟩ => some ⟨scalar, .one, .single reading⟩
  | .cased letterCase, ⟨.text, shape, reading⟩ => some ⟨.text, shape, .cased letterCase reading⟩
  | .orElse value, ⟨scalar, shape, reading⟩ =>
    (shape.ofValue? scalar.ofValue? value).map fun default =>
      ⟨scalar, shape, .orElse reading default⟩
  | .parse scalar, ⟨.text, .one, reading⟩ => some ⟨scalar, .one, .andThen reading scalar.read⟩
  | .convert conversion, reading => conversion.apply reading
  | _, _ => none

/-- A descriptor as data: where it looks, the type it starts from, its name and its modifiers. -/
structure DescriptorPlan where
  source : Source
  scalar : Scalar
  name : String
  modifiers : List Modifier

namespace DescriptorPlan

def initial (source : Source) (scalar : Scalar) : AnyReading :=
  match source with
  | .pathVariable | .queryParameter => ⟨scalar, .one, .fresh scalar.read⟩
  | .header | .cookie => ⟨scalar, .many, .repeated (.fresh scalar.read)⟩

def reading? (plan : DescriptorPlan) : Option AnyReading :=
  plan.modifiers.foldlM (fun reading modifier => modifier.apply reading)
    (initial plan.source plan.scalar)

def extractor? (plan : DescriptorPlan) : Option (Extractor Value) :=
  plan.reading?.map fun ⟨scalar, shape, reading⟩ =>
    Extractor.map (shape.toValue scalar.toValue)
      (Descriptor.mk plan.source plan.name reading).extract

end DescriptorPlan

end HttpHandler
