import HttpHandler.Json.Decoder
import HttpHandler.Descriptor.Scalar

/-!
# Types of bodies

The types that a plan can read a JSON body as.
-/

namespace HttpHandler

open Number

def Enumeration.color : Enumeration :=
  ⟨[⟨"RED", false⟩, ⟨"Green", false⟩, ⟨"deep-blue", false⟩, ⟨"Mix", true⟩]⟩

def Enumeration.shelf : Enumeration := .plain ["BOOKS", "MUSIC"]

def Enumeration.only : Enumeration := .plain ["ONLY"]

inductive BodyType where
  | value
  | unit
  | bool
  | byte
  | int
  | long
  | ulong
  | bigint
  | float
  | double
  | char
  | string
  | ints
  | optInt
  | pair
  | color
  | note
  | user
deriving Repr, DecidableEq

namespace BodyType

open Json (Decoder Node)

def intDecoder : Decoder Int := Decoder.integer (.signed 32)

def ofOption (option : Option Value) : Value :=
  match option with
  | some found => .some found
  | none => .none

def decodePair : Decoder Value
  | budget, .array [first, second] => do
    let n ← intDecoder budget first
    let text ← Decoder.string budget second
    pure (.list [.int n, .text text])
  | _, _ => none

/-- A variant by its name, or an object whose only key is the name of the variant. -/
def decodeColor : Decoder Value
  | _, .string raw => do
    let name ← Json.textOf raw
    match Enumeration.color.read name with
    | .ok name => pure (.variant name)
    | .error _ => none
  | budget, .object [(raw, node)] => do
    let name ← Json.textOf raw
    let variant ← Enumeration.color.variants.find? fun variant => variant.name == name
    if variant.carries then
      let n ← intDecoder budget node
      pure (.record [(.text name, .int n)])
    else
      let _ ← Decoder.unit budget node
      pure (.variant name)
  | _, _ => none

def decodeNote : Decoder Value :=
  (Decoder.textField "text").map fun text => .record [(.text "text", .text text)]

/-- A structure with a name, an age that may be missing from an object, and tags that may be
missing. -/
def decodeUser : Decoder Value := fun budget node => do
  let found ← Decoder.fields ["name", "age", "tags"] 2 node
  let name ← (found.lookup "name").bind (Decoder.string budget)
  let age ← match found.lookup "age" with
    | some node => (Decoder.integer (.unsigned 8)).option budget node
    | none => some none
  let tags ← match found.lookup "tags" with
    | some node => Decoder.string.list budget node
    | none => some []
  pure (.record [(.text "name", .text name), (.text "age", ofOption (age.map .int)),
    (.text "tags", .list (tags.map .text))])

def decoder : BodyType → Decoder Value
  | value => Json.valueOf
  | unit => Decoder.unit.map fun _ => .null
  | bool => Decoder.bool.map .bool
  | byte => (Decoder.integer (.unsigned 8)).map .int
  | int => intDecoder.map .int
  | long => (Decoder.integer (.signed 64)).map .int
  | ulong => (Decoder.integer (.unsigned 64)).map .unsigned
  | bigint => Decoder.bigInteger.map .big
  | float => Decoder.single.map .single
  | double => Decoder.double.map .double
  | char => Decoder.char.map fun c => .text c.toString
  | string => Decoder.string.map .text
  | ints => (Decoder.list intDecoder).map fun ns => .list (ns.map .int)
  | optInt => (Decoder.option intDecoder).map fun n => ofOption (n.map .int)
  | pair => decodePair
  | color => decodeColor
  | note => decodeNote
  | user => decodeUser

end BodyType

end HttpHandler
