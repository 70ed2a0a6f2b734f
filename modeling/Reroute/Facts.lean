import Reroute.Instant
import Reroute.Url

/-!
What the rules can know of a request.
-/

namespace Reroute

structure Facts where
  url : Text
  /-- The path that the application is mounted under. -/
  applicationPath : Text := []
  method : Text := "GET".toList
  host : Option Text := none
  userAgent : Option Text := none
  referer : Option Text := none
  cookie : Option Text := none
  remoteAddr : Option Text := none
  remoteHost : Option Text := none
  remoteUser : Option Text := none
  secure : Bool := false
  now : Instant
  /-- Further variables. The last of a name counts, and it counts more than a built-in one. -/
  extra : List (Text × Text) := []
  deriving DecidableEq, Repr

end Reroute
