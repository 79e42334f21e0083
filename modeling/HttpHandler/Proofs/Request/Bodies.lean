import HttpHandler.Proofs.Response.Streaming
import HttpHandler.Proofs.Service.Handlers

/-!
# Reading a list from the body

A list in the body of a request can be read as a value that may be absent, as one that must be there or
as a stream of its elements. The stream is decoded by code of its own, yet all three agree on what a body
is: nothing, a list, or something else. White space is something else, and so is a list that breaks off
or that anything follows.
-/

namespace HttpHandler

variable {ε α : Type}

namespace Request

theorem decodedBody_of_empty {request : Request} (empty : request.body = [])
    (decoder : Json.Decoder α) : request.decodedBody decoder = .ok none :=
  if_pos empty

theorem decodedBody_of_read {request : Request} (sent : request.body ≠ [])
    {decoder : Json.Decoder α} {value : α} (read : decoder.read request.body = some value) :
    request.decodedBody decoder = .ok (some value) := by
  rw [decodedBody, if_neg sent, read]

theorem decodedBody_of_unread {request : Request} (sent : request.body ≠ [])
    {decoder : Json.Decoder α} (unread : decoder.read request.body = none) :
    request.decodedBody decoder = .error malformedBody := by
  rw [decodedBody, if_neg sent, unread]

theorem bodyValue_eq {request : Request} {decoder : Json.Decoder α}
    {decoded : Except Error (Option α)} (found : request.decodedBody decoder = decoded) :
    (request.bodyValue decoder : AsyncValue ε α) = .ready decoded :=
  congrArg Task.ready found

/-- The stream has what is decoded, though it decodes the body itself. -/
theorem bodyStream_eq (request : Request) (decoder : Json.Decoder α) :
    request.bodyStream decoder =
      match request.decodedBody decoder.list with
      | .ok none => []
      | .ok (some elements) => elements.map .ok
      | .error error => [.error error] := by
  by_cases empty : request.body = []
  · rw [bodyStream, if_pos empty, decodedBody_of_empty empty]
  · rw [bodyStream, if_neg empty]
    cases read : decoder.list.read request.body with
    | none => rw [decodedBody_of_unread empty read]
    | some elements => rw [decodedBody_of_read empty read]

end Request

/-- Code that makes an operation that gives way is run once, and the fallbacks are tried behind it. -/
theorem Operation.continue_orAll_of_givesWay {build : Build ε (Operation ε)}
    (givesWay : build.value.GivesWay) (next : Operation ε) (rest : List (Operation ε)) :
    (build.toTask >>= fun operation => (operation.orAll (next :: rest)).resolve) =
      (next.orAll rest).resolve.after
        (build.toTask.trace ++ build.value.operands.flatMap Operand.passing) := by
  have rescued := resolve_orAll_of_givesWay givesWay next rest
  apply Traced.ext <;> simp [Build.toTask, rescued, Task.after]

/-- The frames that a client is sent once an operation is resolved. If it fails there is nothing but the
failure. -/
def Operation.sent (operation : Operation ε) : ValueStream Bytes :=
  match operation.resolve.value with
  | .ok response => response.body.frames
  | .error error => [.error error]

theorem Operation.joined_sent (operation : Operation ε) :
    Body.joined operation.sent =
      operation.resolve.value >>= fun response => response.body.collect := by
  rw [sent]
  cases operation.resolve.value <;> rfl

section Echo

variable [Serialize α]

theorem Operation.sent_jsonStream (status : StatusCode) (elements : ValueStream α) :
    (jsonStream status elements : Operation ε).sent =
      (JsonStream.frames elements).map Traced.value := by
  rw [sent, jsonStream, resolve_terminating]
  rfl

/-- Whoever collects a stream of values gets what the list of them would have been sent as. -/
theorem Operation.joined_sent_jsonStream (status : StatusCode) (values : List α) :
    Body.joined (jsonStream status (values.map .ok) : Operation ε).sent =
      Body.joined (json status values : Operation ε).sent := by
  rw [joined_sent, joined_sent, json, jsonStream, resolve_terminating, resolve_terminating]
  exact (ResponseBuilder.new status).collect_jsonStream_map_ok values

end Echo

namespace Request

variable [Serialize α]

/-- A list is read alike in all three ways. An empty body has no value, is missed where one is required and
streams nothing. A body that is a list is that value, runs the continuation and streams its elements; the
fallbacks are tried if what the continuation makes gives way. Any other body is one and the same error: the
value fails with it, the client is told it and the stream has it alone. Without a list the continuation does
not run and no fallback is tried. So an echo of the stream collects to the list as it would be sent at once,
and of a malformed body no more than the bracket is sent. -/
theorem body_read_alike (request : Request) (decoder : Json.Decoder α) (status : StatusCode)
    (f : List α → Build ε (Operation ε)) (fallbacks : List (Operation ε)) :
    let value : AsyncValue ε (List α) := request.bodyValue decoder.list
    let required := ((request.requireBody decoder.list f).orAll fallbacks).resolve
    let stream := request.bodyStream decoder
    let echo : Operation ε := .jsonStream status stream
    (request.body = [] →
        value = .ready (.ok none) ∧
        required = pure (.ok (.plainText 400 "Missing required request body.")) ∧
        stream = [] ∧ Body.joined echo.sent = .ok (Utf8.encode "[]")) ∧
      (∀ elements, request.body ≠ [] → decoder.list.read request.body = some elements →
        value = .ready (.ok (some elements)) ∧
        required = ((f elements).toTask >>= fun operation => (operation.orAll fallbacks).resolve) ∧
        (∀ next rest, fallbacks = next :: rest → (f elements).value.GivesWay →
          required = (next.orAll rest).resolve.after
            ((f elements).toTask.trace ++ (f elements).value.operands.flatMap Operand.passing)) ∧
        stream = elements.map .ok ∧
        Body.joined echo.sent = Body.joined (Operation.json status elements : Operation ε).sent) ∧
      (request.body ≠ [] → decoder.list.read request.body = none →
        ∃ error : Error, error.own? = some (400, "Failed to read request body.") ∧
          value = .ready (.error error) ∧
          required = pure (.ok (.plainText 400 "Failed to read request body.")) ∧
          stream = [.error error] ∧
          Body.joined echo.sent = .error error ∧ Body.delivered echo.sent = Utf8.encode "[") := by
  intro value required stream echo
  have resolved : required = _ := resolve_orAll_requireBody request decoder.list f fallbacks
  have streamed : stream = _ := request.bodyStream_eq decoder
  have sent : echo.sent = (JsonStream.frames stream).map Traced.value :=
    Operation.sent_jsonStream status stream
  refine ⟨?_, ?_, ?_⟩
  · intro empty
    have decoded := decodedBody_of_empty empty decoder.list
    have told : Response.ofError (.badRequest missingBodyMessage) =
        .plainText 400 "Missing required request body." := Error.ofError_of_own rfl
    rw [decoded] at resolved streamed
    refine ⟨bodyValue_eq decoded, ?_, streamed, ?_⟩
    · rw [resolved, ← told]
    · rw [sent, streamed]
      exact JsonStream.joined_frames_of_writes (α := α) .nil
  · intro elements given read
    have decoded := decodedBody_of_read given read
    rw [decoded] at resolved streamed
    refine ⟨bodyValue_eq decoded, resolved, ?_, streamed, ?_⟩
    · rintro next rest rfl givesWay
      exact resolved.trans (Operation.continue_orAll_of_givesWay givesWay next rest)
    · change Body.joined (Operation.jsonStream status stream).sent = _
      rw [streamed]
      exact Operation.joined_sent_jsonStream status elements
  · intro given unread
    have decoded := decodedBody_of_unread given unread
    have own : malformedBody.own? = some (400, "Failed to read request body.") := rfl
    rw [decoded] at resolved streamed
    refine ⟨malformedBody, own, bodyValue_eq decoded, ?_, streamed, ?_⟩
    · rw [resolved, ← Error.ofError_of_own own]
    · rw [sent, streamed]
      exact JsonStream.joined_frames_of_fails (α := α) .nil (.given malformedBody) []

/-- Two integers go through a continuation that leaves the answer to a fallback. White space, a list that
breaks off and one that something follows are all answered before the continuation is run. -/
theorem body_read_alike_integers :
    let decoder := Json.Decoder.integer (.signed 32)
    let request (text : String) : Request := ⟨"POST", ⟨"/echo", none⟩, .empty, Utf8.encode text, []⟩
    let leave (_ : List Int) : Build String (Operation String) := do
      Build.perform "ran"
      pure (.empty (.new 204))
    let required (text : String) :=
      (((request text).requireBody decoder.list leave).orAll [Operation.notFound]).resolve
    let echo (text : String) : Operation String := .jsonStream 200 ((request text).bodyStream decoder)
    required "" = pure (.ok (.plainText 400 "Missing required request body.")) ∧
      Body.joined (echo "").sent = .ok (Utf8.encode "[]") ∧
      required "[1, 2]" = ⟨.ok (.empty 404), [.event (.effect "ran"), .event (.log .passedOver)]⟩ ∧
      (request "[1, 2]").bodyStream decoder = [.ok 1, .ok 2] ∧
      Body.joined (echo "[1, 2]").sent =
        Body.joined (Operation.json 200 [(1 : Int), 2] : Operation String).sent ∧
      ∀ text ∈ [" ", "[1, 2", "[1, 2] 3"],
        required text = pure (.ok (.plainText 400 "Failed to read request body.")) ∧
          Body.delivered (echo text).sent = Utf8.encode "[" := by
  intro decoder request leave required echo
  have readers (text : String) :=
    body_read_alike (request text) decoder 200 leave [Operation.notFound]
  have unread : ∀ text ∈ [" ", "[1, 2", "[1, 2] 3"],
      (request text).body ≠ [] ∧ decoder.list.read (request text).body = none := by
    decide +kernel
  obtain ⟨-, missed, -, nothing⟩ := (readers "").1 rfl
  obtain ⟨-, -, rescued, streamed, whole⟩ :=
    (readers "[1, 2]").2.1 [1, 2] (by decide) (by decide +kernel)
  refine ⟨missed, nothing, ?_, streamed, whole, ?_⟩
  · have answered : (Operation.notFound.orAll [] : Operation String).resolve =
        pure (.ok (.empty 404)) := Operation.resolve_answer _
    have followed := rescued Operation.notFound [] rfl (Operation.givesWay_empty _)
    rw [answered] at followed
    exact followed
  · intro text listed
    obtain ⟨given, failed⟩ := unread text listed
    obtain ⟨error, -, -, told, -, -, begun⟩ := (readers text).2.2 given failed
    exact ⟨told, begun⟩

end Request

end HttpHandler
