import HttpHandler.Value
import HttpHandler.Request

/-!
# Terms

The values that a plan mentions, in which variables may occur, and the scope that gives the variables
their values.
-/

namespace HttpHandler

inductive Term where
  | value (value : Value)
  | var (name : String)
  | list (elements : List Term)
  | record (entries : List (Term × Term))
  | some (term : Term)

inductive OptionalTerm where
  | absent
  | present (term : Term)
  | var (name : String)

/-- What a plan can refer to: the request and the variables bound so far, the innermost first. -/
structure Scope where
  request : Request
  bindings : List (String × Value)

namespace Scope

def bind (scope : Scope) (name : String) (value : Value) : Scope :=
  { scope with bindings := (name, value) :: scope.bindings }

def bindAll (scope : Scope) (names : List String) (values : List Value) : Scope :=
  (names.zip values).foldl (fun scope (name, value) => scope.bind name value) scope

/-- The value of a variable. One that is not bound is null. -/
def find (scope : Scope) (name : String) : Value := (scope.bindings.lookup name).getD .null

end Scope

namespace Term

mutual

def eval (scope : Scope) : Term → Value
  | value closed => closed
  | var name => scope.find name
  | list elements => .list (evalAll scope elements)
  | record entries => .record (evalEntries scope entries)
  | some term => .some (eval scope term)

def evalAll (scope : Scope) : List Term → List Value
  | [] => []
  | term :: rest => eval scope term :: evalAll scope rest

def evalEntries (scope : Scope) : List (Term × Term) → List (Value × Value)
  | [] => []
  | (key, term) :: rest => (eval scope key, eval scope term) :: evalEntries scope rest

end

end Term

/-- A value that is an option already, else a value that is present. -/
def Value.asOption : Value → Option Value
  | .none => Option.none
  | .some value => Option.some value
  | value => Option.some value

def OptionalTerm.eval (scope : Scope) : OptionalTerm → Option Value
  | absent => none
  | present term => some (term.eval scope)
  | var name => (scope.find name).asOption

end HttpHandler
