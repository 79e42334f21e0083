import HttpHandler.Traced

/-!
# Writing values as JSON

Writing a value gives compact JSON text, or the message of why it cannot be written. In the text of a
string a quotation mark, a backslash and the control characters below U+0020 are escaped, and nothing else
is. Whoever writes a value leaves a trace of it, so that it can be told when that was.
-/

namespace HttpHandler

namespace Json

def hexDigit (value : Nat) : Char := (Nat.toDigits 16 (value % 16)).headD '0'

def escape (c : Char) : List Char :=
  if c = '"' then ['\\', '"']
  else if c = '\\' then ['\\', '\\']
  else if c = '\x08' then ['\\', 'b']
  else if c = '\x09' then ['\\', 't']
  else if c = '\x0A' then ['\\', 'n']
  else if c = '\x0C' then ['\\', 'f']
  else if c = '\x0D' then ['\\', 'r']
  else if c.toNat < 0x20 then ['\\', 'u', '0', '0', hexDigit (c.toNat / 16), hexDigit c.toNat]
  else [c]

def quote (text : String) : String :=
  String.ofList ('"' :: (text.toList.flatMap escape ++ ['"']))

def commaSeparated (members : List String) : String := String.intercalate "," members

end Json

/-- What comes of writing a value: its text, or the message of why it cannot be written. -/
abbrev Writing := Except String String

/-- A type whose values can be written as JSON. -/
class Serialize (α : Type) where
  json : α → Writing

export Serialize (json)

/-- Writes a value and leaves behind what came of it. -/
def Serialize.write {α : Type} [Serialize α] (value : α) : Traced Writing Writing :=
  ⟨json value, [json value]⟩

/-- The texts of the elements of a list, or the message of the first that cannot be written. -/
def jsonElements {α : Type} [Serialize α] : List α → Except String (List String)
  | [] => .ok []
  | element :: rest => do
    let first ← json element
    let others ← jsonElements rest
    pure (first :: others)

instance {α : Type} [Serialize α] : Serialize (List α) where
  json elements := do
    let texts ← jsonElements elements
    pure ("[" ++ Json.commaSeparated texts ++ "]")

instance : Serialize String where
  json text := .ok (Json.quote text)

instance : Serialize Int where
  json n := .ok (toString n)

end HttpHandler
