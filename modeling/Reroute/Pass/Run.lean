import Reroute.Failure
import Reroute.Pass.Visit

/-!
Passes: directives are visited one after the other, from the first, until they are used up, a rule
ends the pass, or the budget of visits is spent.
-/

namespace Reroute.Pass

structure Config where
  /-- The directives that are still ahead. A pass that a rule has ended has none. -/
  rest : List Directive
  state : State
  /-- The lines of the rules that fired, the latest first. -/
  fired : List Nat := []
  processed : Nat := 0
  restarts : Nat := 0

namespace Config

def start (directives : List Directive) (facts : Facts) : Config where
  rest := directives
  state := .start facts

def pass (c : Config) (ahead : List Directive) (state : State) : Config :=
  { c with rest := ahead, state, processed := c.processed + 1 }

def fire (c : Config) (directives ahead : List Directive) (line : Nat) (state : State)
    (course : Course) : Config where
  rest := match course with
    | .next => ahead
    | .restart => directives
    | .stop => []
  state := state
  fired := line :: c.fired
  processed := c.processed + 1
  restarts := match course with
    | .restart => c.restarts + 1
    | .next | .stop => c.restarts

end Config

/-- Visits the next directive, if there is one. A fault is reported with the URL at which the
directive was reached. -/
def step (directives : List Directive) (applicationPath : Text) (c : Config) :
    Option (Except Evaluation Config) :=
  match c.rest with
  | [] => none
  | d :: ahead =>
    match d.visit applicationPath c.state with
    | .error fault =>
      some (.error { fault, line := d.line, text := d.text, url := c.state.url })
    | .ok (state, none) => some (.ok (c.pass ahead state))
    | .ok (state, some course) => some (.ok (c.fire directives ahead d.line state course))

def run (directives : List Directive) (applicationPath : Text) :
    Nat → Config → Except Failure Config
  | 0, c => if c.rest.isEmpty then .ok c else .error (.unsettled c.processed c.state.url)
  | budget + 1, c =>
    match step directives applicationPath c with
    | none => .ok c
    | some (.error e) => .error (.evaluation e)
    | some (.ok c') => run directives applicationPath budget c'

end Reroute.Pass
