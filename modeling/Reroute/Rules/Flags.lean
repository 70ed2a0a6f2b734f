import Reroute.Count
import Reroute.Text

/-!
The flags of a statement, read from the tokens of its flag list.

A token is a name, whatever the case of its ASCII letters, and an argument after the first `=`.
Unknown names are passed over. A flag of a rule whose argument cannot be used is dropped, and
the first such token is kept.
-/

namespace Reroute

structure ConditionFlags where
  noCase : Bool := false
  orNext : Bool := false
  deriving DecidableEq, Repr

inductive Permanence where
  | temporary
  | permanent
  deriving DecidableEq, Repr

/-- A cookie to set: the fields of `CO=name:value:domain:lifetime:path`. -/
structure CookieFlag where
  name : Text
  value : Text
  domain : Text
  lifetime : Option Text
  path : Option Text
  deriving DecidableEq, Repr

/-- A change of one variable: `E=name:value` or `E=!name`. -/
inductive VariableFlag where
  | assign (name value : Text)
  | remove (name : Text)
  deriving DecidableEq, Repr

structure RuleFlags where
  chain : Bool := false
  noCase : Bool := false
  last : Bool := false
  forbidden : Bool := false
  gone : Bool := false
  next : Bool := false
  appendQuery : Bool := false
  redirect : Option Permanence := none
  skip : Option Nat := none
  contentType : Option Text := none
  cookies : List CookieFlag := []
  changes : List VariableFlag := []
  /-- The first token whose argument cannot be used. -/
  invalid : Option Text := none
  deriving DecidableEq, Repr

inductive RuleFlag where
  | chain
  | noCase
  | last
  | forbidden
  | gone
  | next
  | appendQuery
  | redirect
  | skip
  | contentType
  | cookie
  | variable
  deriving DecidableEq, Repr

namespace FlagToken

def name (token : Text) : Text := Text.lowerAscii (Text.before '=' token)

def argument? (token : Text) : Option Text :=
  if '=' ∈ token then some (Text.after '=' token) else none

end FlagToken

namespace ConditionFlags

def withToken (flags : ConditionFlags) (token : Text) : ConditionFlags :=
  let name := FlagToken.name token
  if name = "nc".toList ∨ name = "nocase".toList then { flags with noCase := true }
  else if name = "or".toList ∨ name = "ornext".toList then { flags with orNext := true }
  else flags

def ofTokens (tokens : List Text) : ConditionFlags := tokens.foldl withToken {}

end ConditionFlags

namespace RuleFlag

def names : List (RuleFlag × String × String) := [
  (.chain, "c", "chain"),
  (.noCase, "nc", "nocase"),
  (.last, "l", "last"),
  (.forbidden, "f", "forbidden"),
  (.gone, "g", "gone"),
  (.next, "n", "next"),
  (.appendQuery, "qsa", "qsappend"),
  (.redirect, "r", "redirect"),
  (.skip, "s", "skip"),
  (.contentType, "t", "type"),
  (.cookie, "co", "cookie"),
  (.variable, "e", "env")]

def ofName? (name : Text) : Option RuleFlag :=
  (names.find? fun (_, short, long) => name = short.toList ∨ name = long.toList).map (·.1)

end RuleFlag

namespace Permanence

def ofArgument (arg : Option Text) : Permanence :=
  if arg = some "301".toList then .permanent else .temporary

end Permanence

namespace CookieFlag

/-- At least three fields between colons; those after the fifth are passed over. -/
def ofArgument? (arg : Text) : Option CookieFlag :=
  match Text.splitBy (· == ':') arg with
  | name :: value :: domain :: more =>
    some { name, value, domain, lifetime := more[0]?, path := more[1]? }
  | _ => none

end CookieFlag

namespace VariableFlag

/-- `!name` removes a variable; `name:value` gives it a value. A name has at least one
character. -/
def ofArgument? (arg : Text) : Option VariableFlag :=
  match arg with
  | '!' :: name => if name = [] then none else some (.remove name)
  | _ =>
    if ':' ∈ arg ∧ Text.before ':' arg ≠ [] then
      some (.assign (Text.before ':' arg) (Text.after ':' arg))
    else none

end VariableFlag

namespace RuleFlags

/-- The count of rules to skip: decimal digits after an optional plus sign. -/
def skipCount? (arg : Text) : Option Nat := do
  let digits := match arg with
    | '+' :: digits => digits
    | _ => arg
  let count ← Text.toNat? digits
  if count < Count.bound then some count else none

def withToken? (flags : RuleFlags) (token : Text) : Option RuleFlags :=
  let arg := FlagToken.argument? token
  match RuleFlag.ofName? (FlagToken.name token) with
  | none => some flags
  | some .chain => some { flags with chain := true }
  | some .noCase => some { flags with noCase := true }
  | some .last => some { flags with last := true }
  | some .forbidden => some { flags with forbidden := true }
  | some .gone => some { flags with gone := true }
  | some .next => some { flags with next := true }
  | some .appendQuery => some { flags with appendQuery := true }
  | some .redirect => some { flags with redirect := some (Permanence.ofArgument arg) }
  | some .skip => (arg.bind skipCount?).map fun count => { flags with skip := some count }
  | some .contentType =>
    match arg with
    | none | some [] => none
    | some mime => some { flags with contentType := some mime }
  | some .cookie => (arg.bind CookieFlag.ofArgument?).map fun spec =>
      { flags with cookies := flags.cookies ++ [spec] }
  | some .variable => (arg.bind VariableFlag.ofArgument?).map fun spec =>
      { flags with changes := flags.changes ++ [spec] }

/-- The flags with one more token; the first token that cannot be used is kept. -/
def withToken (flags : RuleFlags) (token : Text) : RuleFlags :=
  match flags.withToken? token with
  | some flags => flags
  | none => { flags with invalid := flags.invalid <|> some token }

def ofTokens (tokens : List Text) : RuleFlags := tokens.foldl withToken {}

end RuleFlags

end Reroute
