import Reroute.Report
import Reroute.Request

/-!
Rules tried out on a URL, as the author of the rules would do.
-/

namespace Reroute

/-- Tries a rule text on a URL, as if a request for it came in at a given moment. The URL is looked
at before the rules. -/
def tryOut (url applicationPath rules : Text) (now : Instant) : Except Failure Report := do
  let facts ← (Facts.ofUrl url now).mapError Failure.invalidUrl
  (← RuleSet.read rules).report { facts with applicationPath } {}

end Reroute
