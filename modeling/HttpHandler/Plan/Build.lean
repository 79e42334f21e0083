import HttpHandler.Plan.Basic
import HttpHandler.Operation.Answers
import HttpHandler.Operation.Bridge
import HttpHandler.Operation.Extraction
import HttpHandler.Service

/-!
# Building plans

The operation that a plan describes, in a scope. The effects are the marks that the plan's code leaves.
-/

namespace HttpHandler

namespace FuturePlan

def actions (future : FuturePlan) : List (Action Mark) :=
  let polled := future.label.toList.map fun label => Action.event (.effect label)
  let slept := match future.sleep with
    | some millis => Action.wait millis ::
        future.label.toList.map fun label => Action.event (.effect (label ++ "."))
    | none => []
  polled ++ slept

/-- A future of the value, which is null if nothing is said about it. -/
def task (future : FuturePlan) (scope : Scope) : Task Mark (Except Cause Value) :=
  ⟨match future.result with
    | .nothing => .ok .null
    | .value term => .ok (term.eval scope)
    | .failure cause => .error cause,
    future.actions⟩

def maybe (future : FuturePlan) (scope : Scope) : AsyncValue Mark Value :=
  ⟨match future.result with
    | .nothing => .ok none
    | .value term => .ok (some (term.eval scope))
    | .failure cause => .error (Error.ofCause cause),
    future.actions⟩

def unboxedTask (future : FuturePlan) (scope : Scope) : Task Mark (Except Error Value) :=
  (future.task scope).mapValue unboxed

end FuturePlan

def BuilderStep.apply (builder : ResponseBuilder) : BuilderStep → ResponseBuilder
  | .status code => builder.withStatus code
  | .header name value => builder.withHeader name value

def BuilderStep.applyAll (steps : List BuilderStep) (builder : ResponseBuilder) : ResponseBuilder :=
  steps.foldl BuilderStep.apply builder

def leave (label : Option Mark) : Build Mark Unit := ⟨(), label.toList.map Event.effect⟩

def BuilderCode.run (code : BuilderCode) (builder : ResponseBuilder) :
    Build Mark ResponseBuilder := do
  leave code.label
  pure (BuilderStep.applyAll code.steps builder)

def StreamItem.evalAll (scope : Scope) (items : List StreamItem) : ValueStream Value :=
  items.map fun item => item.map (Term.eval scope)

def BuilderEnd.apply (scope : Scope) (builder : ResponseBuilder) :
    BuilderEnd → Traced Writing Outcome
  | .json term => builder.json (term.eval scope)
  | .text line => pure (.ok (builder.text line))
  | .statusText => pure (.ok (builder.text (toString builder.status)))
  | .bytes contentType content => pure (.ok (builder.bytes contentType content))
  | .stream contentType frames => pure (.ok (builder.stream contentType frames))
  | .jsonStream items => pure (.ok (builder.jsonStream (StreamItem.evalAll scope items)))
  | .noBody => pure (.ok builder.noBody)
  | .fail error => pure (.error error)

def MapFunction.label : MapFunction → Mark
  | .wrap => "map:wrap"
  | .null => "map:null"
  | .incr => "map:incr"
  | .fail => "map:fail"
  | .id => "map:id"

/-- One more than a signed integer of 64 bits, which wraps around; other values stay as they are. -/
def incremented : Value → Value
  | .int n => .int ((n + 1).bmod (Nat.pow 2 64))
  | value => value

def MapFunction.apply : MapFunction → Value → Value
  | .wrap, value => .list [value]
  | .null, _ => .null
  | .incr, value => incremented value
  | .fail, _ => .failing "map failed"
  | .id, value => value

def MapFunction.run (function : MapFunction) (value : Value) : Build Mark Value := do
  Build.perform function.label
  pure (function.apply value)

def RequestPart.get (request : Request) : RequestPart → Value
  | .method => .text request.method
  | .path => .text request.path
  | .body => .text (Utf8.decodeLossy request.body)

/-- What a plan may do with a response it has executed: its status and the text of its body. -/
def Response.summary (response : Response) : Traced Writing (Except Error Value) :=
  (Except.map fun bytes => .list [.int response.status, .text (Utf8.decodeLossy bytes)]) <$>
    response.body.read

mutual

def Plan.build : Plan → Scope → Build Mark (Operation Mark)
  | .statusOnly status, _ => pure (.statusOnly status)
  | .json status term, scope => pure (.json status (term.eval scope))
  | .ok term, scope => pure (.ok (term.eval scope))
  | .created term, scope => pure (.created (term.eval scope))
  | .noContent, _ => pure .noContent
  | .notFound, _ => pure .notFound
  | .badRequest message, _ => pure (.badRequest message)
  | .raise cause, _ => pure (.raise cause)
  | .raiseInternal message, _ => pure (.raiseInternal message)
  | .jsonStream status items, scope => pure (.jsonStream status (StreamItem.evalAll scope items))
  | .bodyStream status type, scope =>
    pure (.jsonStream status (scope.request.bodyStream type.decoder))
  | .bytes status contentType bytes, _ => pure (.bytes status contentType bytes)
  | .built status code finish, scope =>
    pure (.built status fun builder => do
      let builder ← code.run builder
      Build.ofWritings (finish.apply scope builder))
  | .raw status fields bytes, _ =>
    pure (.answer { status, headers := Headers.ofList fields, body := .buffered bytes })
  | .chain chain, scope => do
    let chainable ← chain.build scope
    pure chainable.toOperation
  | .flatMap chain name next, scope => do
    let chainable ← chain.build scope
    pure (chainable.flatMap fun builder value => next.build (scope.bind name value) builder)
  | .flatMapAsync chain name future next, scope => do
    let chainable ← chain.build scope
    pure (chainable.flatMapAsync fun builder value =>
      (future.unboxedTask (scope.bind name value)).onOk fun _ =>
        (next.build (scope.bind name value) builder).toTask.mapValue .ok)
  | .or first next, scope => do
    let a ← first.build scope
    let b ← next.build scope
    pure (a.or b)
  | .nested future next, scope =>
    pure (.nested ((future.unboxedTask scope).onOk fun _ =>
      (next.build scope).toTask.mapValue .ok))
  | .terminating future status text, scope =>
    pure (.terminating ((future.unboxedTask scope).onOk fun _ =>
      .ready (.ok (.text status text))))
  | .empty status steps, _ => pure (.empty (BuilderStep.applyAll steps (.new status)))
  | .mark label inner, scope => do
    Build.perform label
    inner.build scope
  | .extract names extractor next, scope =>
    scope.request.extract extractor fun values => next.build (scope.bindAll names values)
  | .inspect parts next, scope =>
    scope.request.inspect fun request =>
      next.build (scope.bindAll (parts.map Prod.fst) (parts.map fun part => part.2.get request))
  | .requireBody type name next, scope =>
    pure (scope.request.requireBody type.decoder fun value => next.build (scope.bind name value))
  | .execute block name next, scope => do
    let answered ← scope.request.execute fun _ => block.build scope
    pure (.nested (answered.onOk fun response =>
      (Build.ofWritings response.summary).toTask.onOk fun value =>
        (next.build (scope.bind name value)).toTask.mapValue .ok))
  | .whenFulfilled future timeout name next, scope =>
    pure (.whenFulfilled (future.task scope) timeout fun value =>
      next.build (scope.bind name value))
  | .whenSettled future timeout name fulfilled failed, scope =>
    pure (.whenSettled (future.task scope) timeout fun
      | .ok value => fulfilled.build (scope.bind name value)
      | .error error =>
        failed.build (scope.bind name (.list [.int error.statusCode, .text error.text])))
  | .branch left right same different, scope =>
    if Value.same (left.eval scope) (right.eval scope) then same.build scope
    else different.build scope

def ChainPlan.build : ChainPlan → Scope → Build Mark (Chainable Mark Value)
  | .ofOption status term, scope => pure (.ofOption status (term.eval scope))
  | .ofAsync status source, scope => do
    let value ← source.build scope
    pure (.ofAsync status value)
  | .withBuilder chain code, scope => do
    let chainable ← chain.build scope
    chainable.withBuilder code.run
  | .map chain function, scope => do
    let chainable ← chain.build scope
    pure (chainable.map function.run)

def AsyncPlan.build : AsyncPlan → Scope → Build Mark (AsyncValue Mark Value)
  | .just term, scope => pure (.just (term.eval scope))
  | .nothing, _ => pure .nothing
  | .option term, scope => pure (.ofOption (term.eval scope))
  | .future future, scope => pure (.ofFuture (future.task scope))
  | .maybe future, scope => pure (future.maybe scope)
  | .body type, scope => pure (scope.request.bodyValue type.decoder)
  | .execute block, scope => do
    let answered ← scope.request.execute fun _ => block.build scope
    pure (answered.mapValue fun outcome =>
      outcome.map fun response => some (.int response.status))

def Continuation.build : Continuation → Scope → ResponseBuilder → Build Mark (Operation Mark)
  | .plan plan, scope, _ => plan.build scope
  | .built code finish, scope, builder => do
    let builder ← code.run builder
    pure (.terminating (Build.ofWritings (finish.apply scope builder)).toTask)
  | .empty code, _, builder => do
    let builder ← code.run builder
    pure (.empty builder)

end

def Plan.block (plan : Plan) (request : Request) : Build Mark (Operation Mark) :=
  plan.build ⟨request, []⟩

def Plan.handler (plan : Plan) : Handler Mark := HttpHandler.handler plan.block

end HttpHandler
