import HttpHandler.Error

/-!
# Log entries

What the library reports while it works, as data and as a line of text.
-/

namespace HttpHandler

inductive Source where
  | pathVariable
  | queryParameter
  | header
  | cookie
deriving Repr, DecidableEq

def Source.name : Source → String
  | .pathVariable => "path variable"
  | .queryParameter => "query parameter"
  | .header => "header"
  | .cookie => "cookie"

inductive LogEntry where
  | missing (source : Source) (name : String)
  | unconvertible (source : Source) (name : String) (cause : Cause)
  | passedOver
  | timedOut (timeout : Timeout)
  /-- A handler surfaced an error that is the server's fault. -/
  | failed (error : Error)
  | rejected (error : Error)

def LogEntry.line : LogEntry → String
  | .missing source name =>
    "DEBUG required value missing|kind=" ++ source.name ++ "|name=" ++ name
  | .unconvertible source name cause =>
    "DEBUG value failed to convert|kind=" ++ source.name ++ "|name=" ++ name ++
      "|cause=" ++ cause.text
  | .passedOver => "TRACE chainable operand empty, trying fallback"
  | .timedOut timeout => "WARN bridged future timed out|timeout=" ++ timeout.text
  | .failed error =>
    "ERROR handler failed|status=" ++ toString error.statusCode ++ "|error=" ++ error.text
  | .rejected error =>
    "DEBUG handler rejected request|status=" ++ toString error.statusCode ++
      "|error=" ++ error.text

end HttpHandler
