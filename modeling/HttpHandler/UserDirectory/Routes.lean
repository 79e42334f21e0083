import HttpHandler.Operation.Answers
import HttpHandler.Operation.Bridge
import HttpHandler.Operation.Extraction
import HttpHandler.Service
import HttpHandler.UserDirectory.Store

/-!
# Serving the users

The routes over a store of users: a health check, looking up, listing and adding users, and an answer
that takes its time. Requests are served one after another; what a request does to the store holds for
the next one.
-/

namespace HttpHandler.UserDirectory

def directions : Enumeration := .plain ["asc", "desc"]

def sortParameter : Descriptor String .one :=
  (Descriptor.queryParameter (.variant directions) "sort").orElse "asc"

def limitParameter : Descriptor Int (.optional .one) :=
  (Descriptor.queryParameter (.integer .int) "limit").optional

/-- The users in the asked direction, at most as many as the limit, of which a negative one is none. -/
def listing (users : Users) (direction : String) (limit : Option Int) : List User :=
  let ordered := if direction = "desc" then users.all.reverse else users.all
  match limit with
  | some limit => ordered.take limit.toNat
  | none => ordered

def patience : Timeout := ⟨1, .seconds⟩

/-- Sleeps for some milliseconds, not less than none, and yields their number. -/
def work (millis : Int) : Task Change (Except Cause Int) := do
  Task.sleep millis.toNat
  pure (.ok millis)

def health : Handler Change := handler fun _ => pure (.statusOnly Status.ok)

def lookup (users : Users) : Handler Change := handler fun request =>
  request.extractValue (.pathVariable (.integer .int) "id") fun id =>
    pure ((Chainable.ofOption Status.ok (users.find? id)).toOperation.or .notFound)

def list (users : Users) : Handler Change := handler fun request =>
  request.extract (Extractor.both sortParameter.extract limitParameter.extract) fun found =>
    pure (Operation.jsonStream Status.ok ((listing users found.1 found.2).map .ok))

def add (users : Users) : Handler Change := handler fun request =>
  pure (request.requireBody (Json.Decoder.textField "name") fun name => do
    let user : User := ⟨users.nextId, name⟩
    Build.perform (.stored user.id user)
    pure (.created user))

def slow : Handler Change := handler fun request =>
  request.extractValue ((Descriptor.queryParameter (.integer .long) "ms").orElse 10) fun millis =>
    pure (.whenFulfilled (work millis) (some patience) fun millis =>
      pure (.ok ("slept " ++ toString millis ++ " ms")))

inductive Route where
  | health
  | lookup (id : String)
  | list
  | add
  | slow
deriving Repr, DecidableEq

def segmentAfter? (beginning path : String) : Option String :=
  if beginning.toList.isPrefixOf path.toList then
    match path.toList.drop beginning.length with
    | [] => none
    | segment => if segment.contains '/' then none else some (String.ofList segment)
  else none

/-- Where a request is routed to. Paths are compared as they stand. -/
def route? (method path : String) : Option Route :=
  if method = "GET" then
    if path = "/healthz" then some .health
    else if path = "/users" then some .list
    else if path = "/slow" then some .slow
    else (segmentAfter? "/users/" path).map .lookup
  else if method = "POST" then if path = "/users" then some .add else none
  else none

def Route.handler (users : Users) : Route → Handler Change
  | .health => UserDirectory.health
  | .lookup _ => UserDirectory.lookup users
  | .list => UserDirectory.list users
  | .add => UserDirectory.add users
  | .slow => UserDirectory.slow

def Route.variables : Route → List (String × String)
  | .lookup id => [("id", id)]
  | _ => []

def answer (users : Users) (request : Request) : Task Change Response :=
  match route? request.method request.path with
  | none => .ready (.empty Status.notFound)
  | some route =>
    let service : Service Change := ⟨route.handler users, false⟩
    service.dispatch { request with pathVariables := route.variables }

def after (users : Users) {α : Type} (task : Task Change α) : Users :=
  (Event.effects (Action.events task.trace)).foldl Users.apply users

/-- Serves requests one after another: the responses, and the store in the end. The trace is what was
reported on the way. -/
def serve : Users → List Request → Traced LogEntry (List Response × Users)
  | users, [] => ⟨([], users), []⟩
  | users, request :: rest =>
    let task := answer users request
    let later := serve (after users task) rest
    ⟨(task.value :: later.value.1, later.value.2),
      Event.logs (Action.events task.trace) ++ later.trace⟩

end HttpHandler.UserDirectory
