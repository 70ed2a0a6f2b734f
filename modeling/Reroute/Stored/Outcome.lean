import Reroute.Outcome
import Reroute.Stored.Basic

/-!
Stored outcomes. An action is its tag alone, or a record whose one field has the tag for its name
and holds the record of what belongs to the action.
-/

namespace Reroute

namespace Action

def toStored : Action → Stored
  | .serve => .text "None".toList
  | .redirect url permanent => .ofFields [
      ("Redirect", .ofFields [("url", .text url), ("permanent", .bool permanent)])]
  | .transfer url => .ofFields [("Transfer", .ofFields [("url", .text url)])]
  | .forbidden => .text "Forbidden".toList
  | .gone => .text "Gone".toList

def bare? (action : Action) : Option Stored → Option Action
  | none | some .null => some action
  | some _ => none

def redirectOfStored? (body : Stored) : Option Action := do
  let field ← body.record?
  return .redirect (← (← field "url").text?) (← (← field "permanent").bool?)

def transferOfStored? (body : Stored) : Option Action := do
  let field ← body.record?
  return .transfer (← (← field "url").text?)

/-- An action from its tag and what stands under it. -/
def ofTag? (tag : Text) (body : Option Stored) : Option Action :=
  if tag = "None".toList then bare? .serve body
  else if tag = "Redirect".toList then body.bind redirectOfStored?
  else if tag = "Transfer".toList then body.bind transferOfStored?
  else if tag = "Forbidden".toList then bare? .forbidden body
  else if tag = "Gone".toList then bare? .gone body
  else none

def ofStored? : Stored → Option Action
  | .text tag => ofTag? tag none
  | .record [(tag, body)] => ofTag? tag (some body)
  | _ => none

end Action

namespace Cookie

def toStored (cookie : Cookie) : Stored := .ofFields [
  ("name", .text cookie.name), ("value", .text cookie.value), ("domain", .text cookie.domain),
  ("path", .ofText? cookie.path)]

def ofStored? (s : Stored) : Option Cookie := do
  let field ← s.fields? ["name", "value", "domain", "path"] false
  return {
    name := ← (← field "name").text?
    value := ← (← field "value").text?
    domain := ← (← field "domain").text?
    path := ← Stored.optionalText? (field "path") }

end Cookie

namespace Outcome

def toStored (outcome : Outcome) : Stored := .ofFields [
  ("action", outcome.action.toStored), ("cookies", .list (outcome.cookies.map Cookie.toStored)),
  ("content_type", .ofText? outcome.contentType)]

def ofStored? (s : Stored) : Option Outcome := do
  let field ← s.fields? ["action", "cookies", "content_type"] false
  return {
    action := ← Action.ofStored? (← field "action")
    cookies := ← (← (← field "cookies").list?).mapM Cookie.ofStored?
    contentType := ← Stored.optionalText? (field "content_type") }

end Outcome

end Reroute
