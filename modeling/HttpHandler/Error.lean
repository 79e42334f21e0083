import HttpHandler.Json.Fault
import HttpHandler.Response.Status
import HttpHandler.Timeout

/-!
# Errors

The errors a handler can surface, and the boxed errors that cause them. An error of this library that
travels in a box is still recognised: taking it out of the box gives it back unchanged, and anything
else in a box is passed on as foreign.
-/

namespace HttpHandler

mutual

inductive Error where
  | status (code : StatusCode) (message : String)
  | statusBecause (code : StatusCode) (message : String) (cause : Cause)
  | timeout (timeout : Timeout)
  | json (fault : Json.Fault)
  | body (cause : Cause)
  | other (cause : Cause)

inductive Cause where
  | foreign (message : String)
  | json (fault : Json.Fault)
  | library (error : Error)

end

namespace Error

def badRequest (message : String) : Error := .status Status.badRequest message

def badRequestBecause (message : String) (cause : Cause) : Error :=
  .statusBecause Status.badRequest message cause

def internal (message : String) : Error := .status Status.internalServerError message

def unserializable (message : String) : Error := .json (.ofMessage message)

/-- Takes an error out of its box: one of this library is itself again, any other is passed on. -/
def ofCause : Cause → Error
  | .library error => error
  | .foreign message => .other (.foreign message)
  | .json fault => .other (.json fault)

/-- The status an error is answered with. Only a status error has one of its own. -/
def statusCode : Error → StatusCode
  | .status code _ => code
  | .statusBecause code _ _ => code
  | _ => Status.internalServerError

def publicMessage? : Error → Option String
  | .status _ message => some message
  | .statusBecause _ message _ => some message
  | _ => none

end Error

mutual

def Error.text : Error → String
  | .status code message => Status.text code ++ ": " ++ message
  | .statusBecause code message _ => Status.text code ++ ": " ++ message
  | .timeout timeout => "timed out after " ++ timeout.text
  | .json fault => "json: " ++ fault.text
  | .body cause => "body: " ++ cause.text
  | .other cause => cause.text

def Cause.text : Cause → String
  | .foreign message => message
  | .json fault => fault.text
  | .library error => error.text

end

mutual

/-- What caused an error. An error passed through has the cause of the error it stands for. -/
def Error.cause? : Error → Option Cause
  | .status _ _ => none
  | .statusBecause _ _ cause => some cause
  | .timeout _ => none
  | .json fault => some (.json fault)
  | .body cause => some cause
  | .other cause => cause.cause?

def Cause.cause? : Cause → Option Cause
  | .foreign _ => none
  | .json _ => none
  | .library error => error.cause?

end

end HttpHandler
