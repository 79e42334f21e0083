/-!
# Request targets

The path and the query of a request target. A target in absolute form loses its scheme and authority,
and a fragment is dropped; nothing is decoded.
-/

namespace HttpHandler

structure Target where
  path : String
  query : Option String
deriving Repr, DecidableEq

namespace Target

def afterScheme? : List Char → Option (List Char)
  | ':' :: '/' :: '/' :: rest => some rest
  | '/' :: _ => none
  | '?' :: _ => none
  | _ :: rest => afterScheme? rest
  | [] => none

def endsAuthority (c : Char) : Bool := c == '/' || c == '?'

def ofPathAndQuery (characters : List Char) : Target :=
  let path := characters.takeWhile (· != '?')
  { path := if path = [] then "/" else String.ofList path
    query := match characters.dropWhile (· != '?') with
      | _ :: query => some (String.ofList query)
      | [] => none }

/-- Reads a target in origin form, in absolute form, or the asterisk. -/
def read (text : String) : Target :=
  let characters := text.toList.takeWhile (· != '#')
  match afterScheme? characters with
  | some rest => ofPathAndQuery (rest.dropWhile fun c => !endsAuthority c)
  | none => ofPathAndQuery characters

end Target

end HttpHandler
