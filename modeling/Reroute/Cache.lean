import Reroute.Digest
import Reroute.Settings

/-!
A place for the rule set that was made last, so that the same rule text is not read again.

The rule set is found by the digest of its text. A change of the text changes the digest, so
nothing has to be said for the old rule set to be given up.
-/

namespace Reroute

/-- A rule set and the digest of its text, once there is one. -/
structure Cache where
  entry : Option (Digest × RuleSet)

namespace Cache

def empty : Cache := ⟨none⟩

def digest? (cache : Cache) : Option Digest := cache.entry.map (·.1)

def holds (cache : Cache) (rules : Text) : Bool := cache.digest? == some (.ofText rules)

def find? (cache : Cache) (rules : Text) : Option RuleSet :=
  match cache.entry with
  | some (digest, ruleSet) => if digest = .ofText rules then some ruleSet else none
  | none => none

/-- The rule set of a text, made anew if it is not kept. A text that breaks the grammar leaves the
cache as it is. -/
def fetch (cache : Cache) (rules : Text) : Cache × Except Malformed RuleSet :=
  match cache.find? rules with
  | some ruleSet => (cache, .ok ruleSet)
  | none =>
    match RuleSet.ofText rules with
    | .ok ruleSet => (⟨some (.ofText rules, ruleSet)⟩, .ok ruleSet)
    | .error e => (cache, .error e)

def run (cache : Cache) (settings : Settings) (facts : Facts) :
    Cache × Except Failure Outcome :=
  if settings.isActive then
    let (cache, ruleSet) := cache.fetch settings.rules
    (cache, do (← ruleSet.mapError .malformed).run facts settings.options)
  else (cache, .ok .untouched)

/-- Runs settings for a request and lets it pass through on any failure. -/
def outcome (cache : Cache) (settings : Settings) (facts : Facts) : Cache × Outcome :=
  match cache.run settings facts with
  | (cache, .ok outcome) => (cache, outcome)
  | (cache, .error _) => (cache, .untouched)

end Cache

end Reroute
