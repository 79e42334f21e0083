import HttpHandler.Response.Basic
import HttpHandler.Response.ContentType

/-!
# Building responses

A builder collects the status and the header fields of a response and is ended by giving it a body. The
fields it was given replace the one that comes with the body.
-/

namespace HttpHandler

structure ResponseBuilder where
  status : StatusCode
  headers : Headers

namespace ResponseBuilder

def new (status : StatusCode) : ResponseBuilder := ⟨status, .empty⟩

def withStatus (builder : ResponseBuilder) (status : StatusCode) : ResponseBuilder :=
  { builder with status }

/-- Adds a header field. A repeated name keeps every value. -/
def withHeader (builder : ResponseBuilder) (name : String) (value : Bytes) : ResponseBuilder :=
  { builder with headers := builder.headers.append name value }

def ownFields : Option ContentType → Headers
  | some contentType => Headers.empty.replace Headers.contentType [contentType.bytes]
  | none => Headers.empty

def finish (builder : ResponseBuilder) (contentType : Option ContentType) (body : Body) :
    Response :=
  { status := builder.status, headers := (ownFields contentType).extend builder.headers, body }

def bytes (builder : ResponseBuilder) (contentType : ContentType) (bytes : Bytes) : Response :=
  builder.finish (some contentType) (.buffered bytes)

def text (builder : ResponseBuilder) (text : String) : Response :=
  builder.bytes .text (Utf8.encode text)

/-- What a builder makes of a value, once it is known what came of writing it. -/
def ofWriting (builder : ResponseBuilder) : Writing → Outcome
  | .ok text => .ok (builder.bytes .json (Utf8.encode text))
  | .error message => .error (.unserializable message)

def json {α : Type} [Serialize α] (builder : ResponseBuilder) (value : α) : Traced Writing Outcome :=
  builder.ofWriting <$> Serialize.write value

def stream (builder : ResponseBuilder) (contentType : ContentType) (frames : ValueStream Bytes) :
    Response :=
  builder.finish (some contentType) (.streamed (frames.map pure))

def noBody (builder : ResponseBuilder) : Response := builder.finish none .absent

end ResponseBuilder

/-! A JSON array is streamed element by element: a bracket, one frame for every element, a bracket. An
element is written when its frame is asked for. Whether it begins with a comma depends on its index alone,
also after an element that failed. -/

namespace JsonStream

variable {α : Type} [Serialize α]

/-- The bytes of an element, once it is known what came of writing it. All but the element at index 0
begin with a comma. -/
def chunk (index : Nat) : Writing → Except Error Bytes
  | .ok text => .ok (Utf8.encode ((if index = 0 then "" else ",") ++ text))
  | .error message => .error (.unserializable message)

def frame (index : Nat) : Except Error α → Frame
  | .error error => pure (.error error)
  | .ok value => chunk index <$> Serialize.write value

def framesFrom : Nat → ValueStream α → List Frame
  | _, [] => []
  | index, element :: rest => frame index element :: framesFrom (index + 1) rest

def frames (elements : ValueStream α) : List Frame :=
  pure (.ok (Utf8.encode "[")) :: (framesFrom 0 elements ++ [pure (.ok (Utf8.encode "]"))])

end JsonStream

def ResponseBuilder.jsonStream {α : Type} [Serialize α] (builder : ResponseBuilder)
    (elements : ValueStream α) : Response :=
  builder.finish (some .json) (.streamed (JsonStream.frames elements))

namespace Response

def empty (status : StatusCode) : Response := (ResponseBuilder.new status).noBody

def text (status : StatusCode) (text : String) : Response := (ResponseBuilder.new status).text text

/-- The response for an error: the message that a client may see, else the bare phrase of the
status. -/
def ofError (error : Error) : Response :=
  match error.publicMessage? with
  | some message => text error.statusCode message
  | none => text error.statusCode ((Status.reason? error.statusCode).getD "")

end Response

end HttpHandler
