import Reroute.Text

/-!
What a pass tells its caller to do with a request.
-/

namespace Reroute

inductive Action where
  | serve
  /-- The client is asked to come again with another URL. -/
  | redirect (url : Text) (permanent : Bool)
  /-- It is dispatched again, with another URL. -/
  | transfer (url : Text)
  | forbidden
  | gone
  deriving DecidableEq, Repr

structure Cookie where
  name : Text
  value : Text
  domain : Text
  path : Option Text
  deriving DecidableEq, Repr

structure Outcome where
  action : Action
  cookies : List Cookie
  contentType : Option Text
  deriving DecidableEq, Repr

namespace Action

def url? : Action → Option Text
  | .redirect url _ => some url
  | .transfer url => some url
  | .serve | .forbidden | .gone => none

def status? : Action → Option Nat
  | .redirect _ permanent => some (if permanent then 301 else 302)
  | .forbidden => some 403
  | .gone => some 410
  | .serve | .transfer _ => none

def isServe (action : Action) : Bool := action == .serve

def display : Action → Text
  | .serve => "none".toList
  | .redirect url permanent =>
    (if permanent then "redirect 301 -> " else "redirect 302 -> ").toList ++ url
  | .transfer url => "transfer -> ".toList ++ url
  | .forbidden => "forbidden".toList
  | .gone => "gone".toList

end Action

namespace Outcome

def untouched : Outcome := { action := .serve, cookies := [], contentType := none }

def cookie? (outcome : Outcome) (name : Text) : Option Cookie :=
  outcome.cookies.find? (·.name == name)

/-- The action, the names of the cookies and the content type. Parts that are not there are left
out. -/
def display (outcome : Outcome) : Text :=
  outcome.action.display ++
    (if outcome.cookies.isEmpty then []
      else
        let names := outcome.cookies.map (·.name)
        ", cookies: [".toList ++ Text.join ", ".toList names ++ [']']) ++
    match outcome.contentType with
    | none => []
    | some mime => ", content-type: ".toList ++ mime

end Outcome

end Reroute
