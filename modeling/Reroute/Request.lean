import Reroute.Facts
import Reroute.Target

/-!
The facts of a request, from its head or from its URL alone.
-/

namespace Reroute

structure Request where
  method : Text := "GET".toList
  target : Target
  /-- Names and values in the order in which they came; names may repeat. -/
  headers : List (Text × Text) := []
  deriving DecidableEq, Repr

namespace Request

def isReadable (c : Char) : Bool := (0x20 ≤ c.toNat && c.toNat ≤ 0x7E) || c == '\t'

/-- The first value of a header, whatever the case of its name, if all of it can be read. -/
def header? (request : Request) (name : String) : Option Text := do
  let (_, value) ← request.headers.find? fun (n, _) => Text.lowerAscii n = name.toList
  if value.all isReadable then some value else none

end Request

namespace Facts

/-- The facts of a request. A header gives the host, or else the target does. -/
def ofRequest (request : Request) (now : Instant) : Facts where
  url := request.target.url
  method := request.method
  host := request.header? "host" <|> request.target.host?
  userAgent := request.header? "user-agent"
  referer := request.header? "referer"
  cookie := request.header? "cookie"
  secure := request.target.isSecure
  now := now

def ofTarget (target : Target) (now : Instant) : Facts where
  url := target.url
  host := target.host?
  secure := target.isSecure
  now := now

def ofUrl (url : Text) (now : Instant) : Except TargetError Facts := do
  return ofTarget (← Target.ofText url) now

end Facts

end Reroute
