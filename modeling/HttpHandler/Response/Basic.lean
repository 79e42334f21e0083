import HttpHandler.Headers
import HttpHandler.Error
import HttpHandler.Serialize

/-!
# Responses

A response has a status, header fields and a body, which is absent, buffered or streamed in frames. The
frames of a stream are made when they are asked for.
-/

namespace HttpHandler

abbrev ValueStream (α : Type) := List (Except Error α)

/-- A frame of a stream, with the values that are written as JSON when it is asked for. -/
abbrev Frame := Traced Writing (Except Error Bytes)

inductive Body where
  | absent
  | buffered (bytes : Bytes)
  | streamed (frames : List Frame)

namespace Body

/-- The frames that a reader asks for. Nothing to send makes no frame. -/
def asked : Body → List Frame
  | .absent => []
  | .buffered [] => []
  | .buffered bytes => [pure (.ok bytes)]
  | .streamed frames => frames

/-- What the frames of a body bring. -/
def frames (body : Body) : ValueStream Bytes := body.asked.map Traced.value

def size? : Body → Option Nat
  | .absent => some 0
  | .buffered bytes => some bytes.length
  | .streamed _ => none

/-- The bytes of all frames, or the first failure among them. -/
def joined : ValueStream Bytes → Except Error Bytes
  | [] => .ok []
  | .ok first :: rest => (joined rest).map (first ++ ·)
  | .error error :: _ => .error error

def collect (body : Body) : Except Error Bytes := joined body.frames

/-- Asks for one frame after another. No more are asked for after the first that fails. -/
def readFrames : List Frame → Traced Writing (Except Error Bytes)
  | [] => pure (.ok [])
  | frame :: rest => frame >>= fun
    | .ok first => (Except.map (first ++ ·)) <$> readFrames rest
    | .error error => pure (.error error)

def read (body : Body) : Traced Writing (Except Error Bytes) := readFrames body.asked

theorem value_readFrames (frames : List Frame) :
    (readFrames frames).value = joined (frames.map Traced.value) := by
  induction frames with
  | nil => rfl
  | cons frame rest ih =>
      obtain ⟨found, writings⟩ := frame
      cases found with
      | ok first => exact congrArg (Except.map (first ++ ·)) ih
      | error error => rfl

@[simp] theorem value_read (body : Body) : body.read.value = body.collect :=
  value_readFrames body.asked

@[simp] theorem collect_absent : Body.absent.collect = .ok [] := rfl

@[simp] theorem collect_buffered (bytes : Bytes) : (Body.buffered bytes).collect = .ok bytes := by
  cases bytes with
  | nil => rfl
  | cons first rest => simp [collect, frames, asked, joined, Except.map]

@[simp] theorem collect_streamed (frames : List Frame) :
    (Body.streamed frames).collect = joined (frames.map Traced.value) := rfl

end Body

structure Response where
  status : StatusCode
  headers : Headers
  body : Body

abbrev Outcome := Except Error Response

def Response.shown (response : Response) : String :=
  "Response \x7b status: " ++ toString response.status ++ ", headers: " ++ response.headers.shown ++
    ", .. \x7d"

end HttpHandler
