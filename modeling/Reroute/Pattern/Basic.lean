import Reroute.Pattern.Footprint
import Reroute.Pattern.Meaning
import Reroute.Pattern.Search

/-!
Patterns and the groups of their matches.
-/

namespace Reroute

/-- The groups of a match. The first is the whole match; a group that took no part is missing. -/
abbrev Groups := List (Option Text)

namespace Groups

/-- The text of a group, empty if the group took no part; nothing if there is no such group. -/
def value? (groups : Groups) (index : Nat) : Option Text :=
  groups[index]?.map fun group => group.getD []

def unmatched (count : Nat) : Groups := List.replicate count none

end Groups

structure Pattern where
  groupCount : Nat
  program : Pattern.Program

namespace Pattern

/-- The pattern that a text writes down: nothing if it breaks the grammar, names what does not
exist, or needs too large an automaton. -/
def ofText? (t : Text) (ignoreCase : Bool) : Option Pattern := do
  let e ← Expr.ofText? t ignoreCase
  if e.fits then
    some { groupCount := e.groupCount, program := .ofExpr e }
  else none

def between (subject : Text) (start stop : Nat) : Text := (subject.drop start).take (stop - start)

def groups? (p : Pattern) (subject : Text) : Option Groups :=
  match p.program.search subject.toArray p.groupCount with
  | none => none
  | some (start, stop, slots) =>
    some ((List.range p.groupCount).map fun index =>
      if index = 0 then some (between subject start stop)
      else do
        let start ← (slots[2 * index]?).join
        let stop ← (slots[2 * index + 1]?).join
        return between subject start stop)

theorem length_of_groups? {p : Pattern} {subject : Text} {groups : Groups}
    (h : p.groups? subject = some groups) : groups.length = p.groupCount := by
  unfold groups? at h
  split at h
  · simp at h
  · simp only [Option.some.injEq] at h
    subst h
    simp

end Pattern

end Reroute
