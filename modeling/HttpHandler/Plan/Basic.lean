import HttpHandler.Plan.Term
import HttpHandler.Plan.BodyType
import HttpHandler.Descriptor.Extractor
import HttpHandler.Response.ContentType

/-!
# Plans

A first-order language of handlers. A plan says which operations, values and futures a handler is made
of; every place where a handler runs code of its own can be marked with a label, which the code leaves
behind when it runs.
-/

namespace HttpHandler

abbrev Mark := String

inductive FutureResult where
  | nothing
  | value (term : Term)
  | failure (cause : Cause)

/-- A future: the label it leaves when it is first polled and again, with a dot, after its sleep; how
long it sleeps, if it does; what it yields. -/
structure FuturePlan where
  label : Option Mark
  sleep : Option Nat
  result : FutureResult

inductive BuilderStep where
  | status (code : StatusCode)
  | header (name : String) (value : Bytes)

/-- Code that takes steps on a builder, and the label it leaves when it runs. -/
structure BuilderCode where
  label : Option Mark
  steps : List BuilderStep

abbrev StreamItem := Except Error Term

inductive BuilderEnd where
  | json (term : Term)
  | text (text : String)
  | statusText
  | bytes (contentType : ContentType) (bytes : Bytes)
  | stream (contentType : ContentType) (frames : List (Except Error Bytes))
  | jsonStream (items : List StreamItem)
  | noBody
  | fail (error : Error)

inductive MapFunction where
  | wrap
  | null
  /-- One more than a signed integer; anything else stays as it is. -/
  | incr
  | fail
  | id
deriving Repr, DecidableEq

inductive RequestPart where
  | method
  | path
  | body
deriving Repr, DecidableEq

mutual

inductive Plan where
  | statusOnly (status : StatusCode)
  | json (status : StatusCode) (term : Term)
  | ok (term : Term)
  | created (term : Term)
  | noContent
  | notFound
  | badRequest (message : String)
  | raise (cause : Cause)
  | raiseInternal (message : String)
  | jsonStream (status : StatusCode) (items : List StreamItem)
  | bodyStream (status : StatusCode) (type : BodyType)
  | bytes (status : StatusCode) (contentType : ContentType) (bytes : Bytes)
  | built (status : StatusCode) (code : BuilderCode) (finish : BuilderEnd)
  | raw (status : StatusCode) (fields : List (String × Bytes)) (bytes : Bytes)
  | chain (chain : ChainPlan)
  | flatMap (chain : ChainPlan) (name : String) (next : Continuation)
  | flatMapAsync (chain : ChainPlan) (name : String) (future : FuturePlan) (next : Continuation)
  | or (first next : Plan)
  | nested (future : FuturePlan) (next : Plan)
  | terminating (future : FuturePlan) (status : StatusCode) (text : String)
  | empty (status : StatusCode) (steps : List BuilderStep)
  | mark (label : Mark) (inner : Plan)
  | extract (names : List String) (extractor : Extractor (List Value)) (next : Plan)
  | inspect (parts : List (String × RequestPart)) (next : Plan)
  | requireBody (type : BodyType) (name : String) (next : Plan)
  /-- Binds the status and the text of what another plan answers. -/
  | execute (block : Plan) (name : String) (next : Plan)
  | whenFulfilled (future : FuturePlan) (timeout : Option Timeout) (name : String) (next : Plan)
  | whenSettled (future : FuturePlan) (timeout : Option Timeout) (name : String)
    (fulfilled failed : Plan)
  | branch (left right : Term) (same different : Plan)

inductive ChainPlan where
  | ofOption (status : StatusCode) (term : OptionalTerm)
  | ofAsync (status : StatusCode) (source : AsyncPlan)
  | withBuilder (chain : ChainPlan) (code : BuilderCode)
  | map (chain : ChainPlan) (function : MapFunction)

inductive AsyncPlan where
  | just (term : Term)
  | nothing
  | option (term : OptionalTerm)
  | future (future : FuturePlan)
  /-- The value of a future, or nothing if it yields none. -/
  | maybe (future : FuturePlan)
  | body (type : BodyType)
  | execute (block : Plan)

inductive Continuation where
  | plan (plan : Plan)
  | built (code : BuilderCode) (finish : BuilderEnd)
  | empty (code : BuilderCode)

end

end HttpHandler
