import Reroute.Proofs.Pass.CarriedQuery
import Reroute.Trial

/-!
# Rules tried out on a URL

A trial tells what a live request for the URL would: the facts of a URL are those of a request for its
target without headers, up to the moment, and the URL that the rules see comes apart again into the path
and the query of the target. For that no path may hold a question mark, and none that is read does, as a
path ends at the first one. A URL that cannot be read is a failure whatever the rules are.
-/

namespace Reroute

namespace Target

variable {t : Text} {target : Target}

/-! ### The path of a target that has been read -/

end Target

/-! ### A URL and a request for it -/

def Request.get (target : Target) : Request where
  method := "GET".toList
  target := target
  headers := []

end Reroute
