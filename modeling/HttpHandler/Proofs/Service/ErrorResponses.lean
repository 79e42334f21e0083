import HttpHandler.Service

/-!
# What a client is told of an error

A service answers every error that its handler surfaces, and logs it a single time. A status error keeps
its status and its message; of any other error a client learns nothing unless the service exposes its
errors. So without that no client can tell two such errors apart. A body that cannot be read is an error
of this kind, and the handler is not run.
-/

namespace HttpHandler

variable {ε : Type}

/-- A plain text, with no header field but the one that says so. -/
def Response.plainText (status : StatusCode) (text : String) : Response where
  status := status
  headers := ⟨[("content-type", [Utf8.encode "text/plain; charset=utf-8"])]⟩
  body := .buffered (Utf8.encode text)

theorem Response.text_eq_plainText (status : StatusCode) (text : String) :
    Response.text status text = .plainText status text := by
  have spelled : Headers.canonical "content-type" = "content-type" := by decide
  have fields : ResponseBuilder.ownFields (some .text) =
      ⟨[("content-type", [Utf8.encode "text/plain; charset=utf-8"])]⟩ := by
    rw [ResponseBuilder.ownFields, Headers.replace, Headers.contentType, spelled]
    rfl
  rw [Response.text, ResponseBuilder.text, ResponseBuilder.bytes, ResponseBuilder.finish, fields]
  rfl

namespace Error

/-- The status and the message that a status error has of its own. -/
def own? : Error → Option (StatusCode × String)
  | .status code message => some (code, message)
  | .statusBecause code message _ => some (code, message)
  | _ => none

def answeredStatus (error : Error) : StatusCode :=
  match error.own? with
  | some (code, _) => code
  | none => 500

/-- Whether an error is the server's fault. -/
def IsServerFault (error : Error) : Prop :=
  500 ≤ error.answeredStatus ∧ error.answeredStatus ≤ 599

instance (error : Error) : Decidable error.IsServerFault :=
  inferInstanceAs (Decidable (_ ∧ _))

def answeredText (exposed : Bool) (error : Error) : String :=
  if exposed = true ∧ error.IsServerFault then error.text
  else match error.own? with
    | some (_, message) => message
    | none => "Internal Server Error"

def translation (error : Error) : LogEntry :=
  if error.IsServerFault then .failed error else .rejected error

theorem statusCode_eq_answeredStatus (error : Error) : error.statusCode = error.answeredStatus := by
  cases error <;> rfl

theorem isServerError_statusCode (error : Error) :
    Status.isServerError error.statusCode = decide error.IsServerFault := by
  rw [statusCode_eq_answeredStatus]
  exact (Bool.decide_and _ _).symm

theorem line_translation (error : Error) :
    error.translation.line =
      (if error.IsServerFault then "ERROR handler failed" else "DEBUG handler rejected request") ++
        "|status=" ++ toString error.answeredStatus ++ "|error=" ++ error.text := by
  rw [← statusCode_eq_answeredStatus, translation]
  let fields (level : String) := level ++ toString error.statusCode ++ "|error=" ++ error.text
  by_cases fault : error.IsServerFault
  · have joined : "ERROR handler failed|status=" = "ERROR handler failed" ++ "|status=" := rfl
    rw [if_pos fault, if_pos fault]
    exact congrArg fields joined
  · have joined : "DEBUG handler rejected request|status=" =
        "DEBUG handler rejected request" ++ "|status=" := rfl
    rw [if_neg fault, if_neg fault]
    exact congrArg fields joined

theorem answeredText_false (error : Error) :
    error.answeredText false = match error.own? with
      | some (_, message) => message
      | none => "Internal Server Error" :=
  if_neg fun shown => Bool.false_ne_true shown.1

theorem ofError_eq_plainText (error : Error) :
    Response.ofError error = .plainText error.answeredStatus (error.answeredText false) := by
  have phrase : Status.reason? Status.internalServerError = some "Internal Server Error" := by decide
  rw [Response.ofError, answeredText_false]
  cases error with
  | status code message => exact Response.text_eq_plainText code message
  | statusBecause code message cause => exact Response.text_eq_plainText code message
  | timeout limit | json fault | body cause | other cause =>
      -- The text is the phrase of the status, which is 500 for all of these.
      rw [statusCode_eq_answeredStatus, Response.text_eq_plainText]
      change Response.plainText _ ((Status.reason? Status.internalServerError).getD "") = _
      rw [phrase]
      rfl

theorem ofError_of_own {error : Error} {code : StatusCode} {message : String}
    (own : error.own? = some (code, message)) : Response.ofError error = .plainText code message := by
  rw [ofError_eq_plainText, answeredText_false, answeredStatus, own]

theorem answeredText_of_not_serverFault {error : Error} (rejected : ¬error.IsServerFault)
    (exposed : Bool) : error.answeredText exposed = error.answeredText false := by
  rw [answeredText_false]
  exact if_neg fun shown => rejected shown.2

end Error

/-- A frame that fails is what collecting comes to, whatever arrived before it. -/
theorem IncomingFrame.collect_of_failed {before : List IncomingFrame}
    (readable : ∀ failure, IncomingFrame.failed failure ∉ before) (cause : Cause)
    (rest : List IncomingFrame) : collect (before ++ .failed cause :: rest) = .error cause := by
  induction before with
  | nil => rfl
  | cons frame before ih =>
      have collected : collect (before ++ .failed cause :: rest) = .error cause :=
        ih fun failure member => readable failure (List.mem_cons_of_mem frame member)
      cases frame with
      | data bytes => rw [List.cons_append, collect, collected]; rfl
      | trailers => rw [List.cons_append, collect, collected]
      | failed failure => exact absurd List.mem_cons_self (readable failure)

namespace Service

theorem errorResponse_eq (exposed : Bool) (error : Error) :
    errorResponse exposed error =
      ⟨.plainText error.answeredStatus (error.answeredText exposed), [error.translation]⟩ := by
  rw [errorResponse, Error.isServerError_statusCode, Error.translation]
  by_cases fault : error.IsServerFault
  · rw [if_pos (decide_eq_true fault), if_pos fault]
    cases exposed with
    | false => rw [if_neg Bool.false_ne_true, Error.ofError_eq_plainText]
    | true =>
        have shown : error.answeredText true = error.text := if_pos ⟨rfl, fault⟩
        rw [if_pos rfl, shown, Response.text_eq_plainText, Error.statusCode_eq_answeredStatus]
  · have hidden : ¬decide error.IsServerFault = true := by simpa using fault
    rw [if_neg hidden, if_neg fault, Error.ofError_eq_plainText,
      Error.answeredText_of_not_serverFault fault exposed]

theorem answer_eq (service : Service ε) (error : Error) :
    service.answer error =
      ⟨.plainText error.answeredStatus (error.answeredText service.exposeInternalErrors),
        [.event (.log error.translation)]⟩ := by
  rw [answer, errorResponse_eq]
  rfl

theorem dispatch_of_ok {service : Service ε} {request : Request} {response : Response}
    (handled : (service.handler request).value = .ok response) :
    service.dispatch request = ⟨response, (service.handler request).trace⟩ := by
  apply Traced.ext <;> simp [dispatch, handled, Task.ready]

theorem dispatch_of_error {service : Service ε} {request : Request} {error : Error}
    (surfaced : (service.handler request).value = .error error) :
    service.dispatch request =
      ⟨.plainText error.answeredStatus (error.answeredText service.exposeInternalErrors),
        (service.handler request).trace ++ [.event (.log error.translation)]⟩ := by
  apply Traced.ext <;> simp [dispatch, surfaced, answer_eq]

theorem serve_of_unread {service : Service ε} {receive : Bytes → Request} {body : List IncomingFrame}
    {cause : Cause} (unread : IncomingFrame.collect body = .error cause) :
    service.serve receive body = service.answer (.body cause) := by
  simp only [serve, unread]

/-- The runs of a service that end in an error. -/
inductive EndsIn (service : Service ε) : Task ε Response → Error → Prop where
  | dispatched {request : Request} {error : Error}
    (surfaced : (service.handler request).value = .error error) :
    EndsIn service (service.dispatch request) error
  | served {receive : Bytes → Request} {body : List IncomingFrame} {bytes : Bytes} {error : Error}
    (read : IncomingFrame.collect body = .ok bytes)
    (surfaced : (service.handler (receive bytes)).value = .error error) :
    EndsIn service (service.serve receive body) error
  | unread {receive : Bytes → Request} {body : List IncomingFrame} {cause : Cause}
    (unread : IncomingFrame.collect body = .error cause) :
    EndsIn service (service.serve receive body) (.body cause)

theorem EndsIn.value_eq {service : Service ε} {run : Task ε Response} {error : Error}
    (ends : service.EndsIn run error) :
    run.value = .plainText error.answeredStatus (error.answeredText service.exposeInternalErrors) := by
  cases ends with
  | dispatched surfaced => rw [dispatch_of_error surfaced]
  | served read surfaced =>
      simp only [serve, read]
      rw [dispatch_of_error surfaced]
  | unread unread => rw [serve_of_unread unread, answer_eq]

/-- With its errors hidden, a service answers all errors that are not status errors alike. -/
theorem EndsIn.value_eq_of_hidden {service : Service ε} {run : Task ε Response} {error : Error}
    (ends : service.EndsIn run error) (hidden : service.exposeInternalErrors = false)
    (foreign : error.own? = none) : run.value = .plainText 500 "Internal Server Error" := by
  rw [ends.value_eq, hidden, Error.answeredText_false, Error.answeredStatus, foreign]

/-- A response of the handler is given untouched and nothing is logged of it. An error is answered with
a plain text and logged a single time, as the server's fault or as a rejection. With errors hidden, any
two runs that end in errors other than status errors give the same response. A body that cannot be read
is such an error, and the handler has no part in the answer. -/
theorem dispatch_answers_errors (service : Service ε) (request : Request) :
    (∀ response, (service.handler request).value = .ok response →
        service.dispatch request = ⟨response, (service.handler request).trace⟩) ∧
      (∀ error, (service.handler request).value = .error error →
        service.dispatch request =
            ⟨.plainText error.answeredStatus (error.answeredText service.exposeInternalErrors),
              (service.handler request).trace ++ [.event (.log error.translation)]⟩ ∧
          error.translation.line =
            (if error.IsServerFault then "ERROR handler failed"
              else "DEBUG handler rejected request") ++
              "|status=" ++ toString error.answeredStatus ++ "|error=" ++ error.text) ∧
      (∀ (φ : Type) (other : Service φ) run otherRun error otherError,
        service.exposeInternalErrors = false → other.exposeInternalErrors = false →
        service.EndsIn run error → other.EndsIn otherRun otherError →
        error.own? = none → otherError.own? = none → run.value = otherRun.value) ∧
      (∀ receive before cause rest, (∀ failure, IncomingFrame.failed failure ∉ before) →
        service.serve receive (before ++ .failed cause :: rest) =
          ⟨.plainText 500 ((Error.body cause).answeredText service.exposeInternalErrors),
            [.event (.log (.failed (.body cause)))]⟩) := by
  refine ⟨fun response => dispatch_of_ok, ?_, ?_, ?_⟩
  · intro error surfaced
    exact ⟨dispatch_of_error surfaced, error.line_translation⟩
  · intro φ other run otherRun error otherError hidden otherHidden ends otherEnds foreign otherForeign
    rw [ends.value_eq_of_hidden hidden foreign, otherEnds.value_eq_of_hidden otherHidden otherForeign]
  · intro receive before cause rest readable
    rw [serve_of_unread (IncomingFrame.collect_of_failed readable cause rest), answer_eq]
    rfl

/-- A timeout, an error of this library that is passed on as foreign and a body that breaks off are
answered alike. A conflict keeps its status and its message. -/
theorem dispatch_answers_errors_alike :
    let request : Request := ⟨"GET", ⟨"/", none⟩, .empty, [], []⟩
    let failing (error : Error) : Service String := ⟨fun _ => ⟨.error error, [.sleep 5]⟩, false⟩
    let slow : Service String := failing (.timeout ⟨5, .milliseconds⟩)
    let wrapped : Service String := failing (.other (.library (.status 404 "no such user")))
    let conflict : Error := .status 409 "taken"
    (slow.dispatch request).value = (wrapped.dispatch request).value ∧
      (failing conflict).dispatch request =
        ⟨.plainText 409 "taken", [.sleep 5, .event (.log (.rejected conflict))]⟩ ∧
      slow.serve (fun _ => request) [.data [0x7B], .failed (.foreign "reset"), .trailers] =
        ⟨.plainText 500 "Internal Server Error",
          [.event (.log (.failed (.body (.foreign "reset"))))]⟩ := by
  intro request failing slow wrapped conflict
  have answered := (dispatch_answers_errors (failing conflict) request).2.1 conflict rfl
  obtain ⟨_, _, alike, unread⟩ := dispatch_answers_errors slow request
  refine ⟨?_, answered.1, ?_⟩
  · exact alike String wrapped _ _ _ _ rfl rfl (.dispatched rfl) (.dispatched rfl) rfl rfl
  · exact unread (fun _ => request) [.data [0x7B]] (.foreign "reset") [.trailers] (by simp)

end Service

end HttpHandler
