import HttpHandler.UserDirectory.Routes
import HttpHandler.Proofs.Descriptor.Integers
import HttpHandler.Proofs.Descriptor.Presence
import HttpHandler.Proofs.Operation.Bridging
import HttpHandler.Proofs.Operation.FlatMap
import HttpHandler.Proofs.Service.Handlers
import HttpHandler.Proofs.UserDirectory.Numbering

/-!
# What a request does to the users

A request that posts a user stores one user and answers with it. No other request changes the store, also
one whose body cannot be read. A look-up answers with the user that is stored under the number.
-/

namespace HttpHandler.UserDirectory

open Operation

variable {users : Users} {request : Request}

theorem answer_of_route {route : Route}
    (routed : route? request.method request.path = some route) :
    answer users request = Service.dispatch ⟨route.handler users, false⟩
      { request with pathVariables := route.variables } := by
  simp only [answer, routed]

end HttpHandler.UserDirectory
