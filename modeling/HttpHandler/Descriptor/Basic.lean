import HttpHandler.Descriptor.Extractor
import HttpHandler.Descriptor.Reading
import HttpHandler.Descriptor.Scalar

/-!
# Descriptors

A descriptor names a value of a request, says where it is and how it is read. Path variables and query
parameters start as one required value, header fields and cookies as all their values. A failure is a
client error that names what was missing or did not convert.
-/

namespace HttpHandler

structure Descriptor (β : Type) (shape : Shape) where
  source : Source
  name : String
  reading : Reading β shape

def Source.missingMessage (source : Source) (name : String) : String :=
  "Missing required " ++ source.name ++ " " ++ name ++ "."

/-- The message for a value that does not convert, which does not show the value. -/
def Source.invalidMessage (source : Source) (name : String) : String :=
  match source with
  | .pathVariable => "Failed to parse path variable " ++ name ++ "."
  | .queryParameter => "Invalid value for query parameter " ++ name ++ ". Conversion failed."
  | .header => "Invalid value for header " ++ name ++ "."
  | .cookie => "Invalid value for cookie " ++ name ++ "."

/-- The raw values under a name. A header field without a readable value is absent. -/
def Source.rawValues (source : Source) (name : String) (request : Request) :
    Option (List String) :=
  match source with
  | .pathVariable => (request.pathVariable? name).map ([·])
  | .queryParameter => request.queryValues? name
  | .header =>
    match request.headerValues name with
    | [] => none
    | values => some values
  | .cookie => request.cookieValues? name

def Failure.toError (source : Source) (name : String) : Failure → Error
  | .missing => .badRequest (source.missingMessage name)
  | .invalid cause => .badRequestBecause (source.invalidMessage name) cause

def Failure.toLog (source : Source) (name : String) : Failure → LogEntry
  | .missing => .missing source name
  | .invalid cause => .unconvertible source name cause

namespace Descriptor

variable {β γ : Type} {shape : Shape}

def read (descriptor : Descriptor β shape) (request : Request) : Except Failure (shape.Of β) :=
  descriptor.reading.read (descriptor.source.rawValues descriptor.name request)

def extract (descriptor : Descriptor β shape) : Extractor (shape.Of β) := fun request =>
  match descriptor.read request with
  | .ok value => pure (.ok value)
  | .error failure =>
    ⟨.error (failure.toError descriptor.source descriptor.name),
      [failure.toLog descriptor.source descriptor.name]⟩

def pathVariable (scalar : Scalar) (name : String) : Descriptor scalar.Val .one :=
  ⟨.pathVariable, name, .fresh scalar.read⟩

def queryParameter (scalar : Scalar) (name : String) : Descriptor scalar.Val .one :=
  ⟨.queryParameter, name, .fresh scalar.read⟩

def header (name : String) : Descriptor String .many :=
  ⟨.header, name, .repeated (.fresh .ok)⟩

def cookie (name : String) : Descriptor String .many :=
  ⟨.cookie, name, .repeated (.fresh .ok)⟩

/-- Nothing where there is no value. One that does not convert is still an error. -/
def optional (descriptor : Descriptor β shape) : Descriptor β (.optional shape) :=
  ⟨descriptor.source, descriptor.name, .optional descriptor.reading⟩

def orElse (descriptor : Descriptor β shape) (value : shape.Of β) : Descriptor β shape :=
  { descriptor with reading := .orElse descriptor.reading value }

def convert (descriptor : Descriptor β .one) (next : β → Except Cause γ) : Descriptor γ .one :=
  ⟨descriptor.source, descriptor.name, .andThen descriptor.reading next⟩

def repeated (descriptor : Descriptor β .one) : Descriptor β .many :=
  ⟨descriptor.source, descriptor.name, .repeated descriptor.reading⟩

def csv (descriptor : Descriptor β .one) : Descriptor β .many :=
  ⟨descriptor.source, descriptor.name, .csv descriptor.reading⟩

def single (descriptor : Descriptor β .many) : Descriptor β .one :=
  ⟨descriptor.source, descriptor.name, .single descriptor.reading⟩

def cased (descriptor : Descriptor String shape) (letterCase : Text.LetterCase) :
    Descriptor String shape :=
  { descriptor with reading := .cased letterCase descriptor.reading }

end Descriptor

end HttpHandler
