import Reroute.Pass.State
import Reroute.Rules.Directive

/-!
What a visit to a directive does to the state of a pass.

A condition adds its result to that of the conditions before the next rule. A rule is tried if no
skip, no condition and no rule before it holds it back; it fires if its pattern says so, and only
then do its flags take effect.
-/

namespace Reroute.Pass

inductive Course where
  | next
  | restart
  | stop
  deriving DecidableEq, Repr

end Reroute.Pass

namespace Reroute.CookieFlag

def cookie (spec : CookieFlag) : Cookie where
  name := spec.name
  value := spec.value
  domain := spec.domain
  path := spec.path

/-- Sets a cookie: in the place of the one of that name, or behind all others. -/
def set (cookies : List Cookie) (spec : CookieFlag) : List Cookie :=
  match cookies with
  | [] => [spec.cookie]
  | c :: rest => if c.name = spec.name then spec.cookie :: rest else c :: set rest spec

end Reroute.CookieFlag

namespace Reroute.VariableFlag

/-- Changes a variable. A value keeps the groups of the moment for the time when it is read. -/
def apply (condition : Option Groups) (rule : Groups) (env : Environment) :
    VariableFlag → Environment
  | .assign name value => env.insert name (.template value condition rule)
  | .remove name => env.erase name

end Reroute.VariableFlag

namespace Reroute.RuleFlags

def action (flags : RuleFlags) (url : Text) : Action :=
  match flags.redirect with
  | some kind => .redirect url (kind == .permanent)
  | none => .transfer url

def course (flags : RuleFlags) : Pass.Course :=
  if flags.last then .stop else if flags.next then .restart else .next

end Reroute.RuleFlags

namespace Reroute.Condition

open Pass

def isEvaluated (c : Condition) (state : State) : Bool := c.flags.orNext || state.conditionsHold

/-- Puts the test. Variables are expanded before the pattern is looked at. -/
def verdict (c : Condition) (state : State) : Except Fault Verdict := do
  let value ← state.environment.expand state.url c.subject
  match c.criterion with
  | none => throw .invalidPattern
  | some criterion => return criterion.judge value

def join (c : Condition) (hold matched : Bool) : Bool :=
  if c.flags.orNext then hold || matched else hold && matched

def visit (c : Condition) (state : State) : Except Fault State :=
  if c.isEvaluated state then
    (c.verdict state).map fun verdict =>
      { state with
        groups := verdict.groups
        conditionsHold := c.join state.conditionsHold verdict.matched }
  else .ok state

end Reroute.Condition

namespace Reroute.Rule

open Pass

def isTried (r : Rule) (state : State) : Bool :=
  state.skip == 0 && state.conditionsHold && (!r.flags.chain || state.previousFired)

/-- The URL that a rule makes: the path alone, or the target with the query string of the URL
before it. -/
def newUrl (r : Rule) (path : Text) (groups : Groups) (state : State) : Except Fault Text :=
  match r.substitution with
  | .keep => .ok path
  | .target target => do
    let url ← state.environment.expandAll state.url state.groups groups target
    return Url.carryQuery url (Url.query state.url) r.flags.appendQuery

/-- The flags of a rule that has fired take effect. A refusal ends the pass before all others. -/
def apply (r : Rule) (groups : Groups) (state : State) : State × Course :=
  if r.flags.forbidden then ({ state with action := .forbidden }, .stop)
  else if r.flags.gone then ({ state with action := .gone }, .stop)
  else ({ state with
    cookies := r.flags.cookies.foldl CookieFlag.set state.cookies
    environment := r.flags.changes.foldl (VariableFlag.apply state.groups groups)
      state.environment
    skip := r.flags.skip.getD state.skip
    contentType := r.flags.contentType <|> state.contentType
    action := r.flags.action state.url }, r.flags.course)

/-- A rule fires: it makes a new URL and applies its flags. A flag that cannot be used is a fault
before any other. -/
def fire (r : Rule) (path : Text) (groups : Groups) (state : State) :
    Except Fault (State × Course) :=
  match r.flags.invalid with
  | some token => .error (.invalidFlag token)
  | none => (r.newUrl path groups state).map fun url =>
      r.apply groups { state with url, previousFired := true }

def attempt (r : Rule) (applicationPath : Text) (state : State) :
    Except Fault (State × Option Course) := do
  let path := Url.pathBelow state.url applicationPath
  match ← r.match? path with
  | none => return ({ state with previousFired := false }, none)
  | some groups =>
    let (state, course) ← r.fire path groups state
    return (state, some course)

def visit (r : Rule) (applicationPath : Text) (state : State) :
    Except Fault (State × Option Course) :=
  if r.isTried state then r.attempt applicationPath state else .ok (state.passOver, none)

end Reroute.Rule

namespace Reroute.Directive

open Pass

def visit (d : Directive) (applicationPath : Text) (state : State) :
    Except Fault (State × Option Course) :=
  match d with
  | .condition c => (c.visit state).map fun state => (state, none)
  | .rule r => r.visit applicationPath state

end Reroute.Directive
