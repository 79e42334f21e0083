import HttpHandler.Headers
import HttpHandler.Request.Target
import HttpHandler.Request.Query

/-!
# Requests

An incoming request with its body already read, and the named values in it. Every source of named
values answers with the list of values under a name, or with nothing if the name does not occur.
-/

namespace HttpHandler

/-! The cookies of a request are the pairs separated by semicolons in all fields `Cookie` that are
readable. -/

namespace Cookies

open Text

/-- The pair in a segment. A segment without a name is none; one without an equals sign has an empty
value. -/
def pairOf? (segment : List Char) : Option (String × String) :=
  let segment := trim segment
  let name := trim (segment.takeWhile (· != '='))
  if name = [] then none
  else some (String.ofList name, String.ofList (trim ((segment.dropWhile (· != '=')).drop 1)))

def pairsOf (text : String) : List (String × String) := (text.toList.splitOn ';').filterMap pairOf?

/-- The pairs of all fields of a request, in order. A field that is not readable has none. -/
def pairs (headers : Headers) : List (String × String) :=
  ((headers.values Headers.cookie).filterMap Headers.text?).flatMap pairsOf

end Cookies

structure Request where
  method : String
  target : Target
  headers : Headers
  body : Bytes
  /-- The variables that routing matched; of two with one name the later counts. -/
  pathVariables : List (String × String)

namespace Request

def path (request : Request) : String := request.target.path

def pathVariable? (request : Request) (name : String) : Option String :=
  request.pathVariables.reverse.lookup name

def queryPairs (request : Request) : List (String × String) :=
  match request.target.query with
  | some query => Query.pairs (Utf8.encode query)
  | none => []

def queryValues? (request : Request) (name : String) : Option (List String) :=
  valuesNamed? name request.queryPairs

def headerValues (request : Request) (name : String) : List String :=
  (request.headers.values name).filterMap Headers.text?

def cookieValues? (request : Request) (name : String) : Option (List String) :=
  valuesNamed? name (Cookies.pairs request.headers)

end Request

end HttpHandler
