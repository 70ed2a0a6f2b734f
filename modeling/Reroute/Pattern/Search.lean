import Reroute.Pattern.CharClass
import Reroute.Pattern.Program

/-!
The search for the leftmost match that the order of the choices prefers.

The search goes depth first and keeps, for every place of the subject, the addresses at which
it has been there. What failed once would fail again, so no address is tried twice at a place,
and the time is bounded by the product of the lengths of the program and the subject.
-/

namespace Reroute.Pattern

abbrev Slots := List (Option Nat)

def isWord (unicode : Bool) (c : Char) : Bool :=
  if unicode then CharClass.words.contains c else c.isAlphanum || c == '_'

namespace Look

def holds (l : Look) (before after : Option Char) : Bool :=
  match l with
  | .start => before.isNone
  | .stop => after.isNone
  | .lineStart false => before.isNone || before == some '\n'
  | .lineStop false => after.isNone || after == some '\n'
  | .lineStart true =>
    before.isNone || before == some '\n' || (before == some '\r' && after != some '\n')
  | .lineStop true =>
    after.isNone || after == some '\r' || (after == some '\n' && before != some '\r')
  | .word place unicode =>
    let wordBefore := before.any (isWord unicode)
    let wordAfter := after.any (isWord unicode)
    match place with
    | .boundary => wordBefore != wordAfter
    | .notBoundary => wordBefore == wordAfter
    | .start => !wordBefore && wordAfter
    | .stop => wordBefore && !wordAfter
    | .startHalf => !wordBefore
    | .stopHalf => !wordAfter

end Look

structure Way where
  address : Nat
  place : Nat
  slots : Slots

/-- For every place, the addresses tried there as the bits of a number. -/
abbrev Tried := Array Nat

namespace Program

/-- The ways that lead on from a way, the preferred one first. Nothing if it ends in a match. -/
def ways? (p : Program) (subject : Array Char) (way : Way) : Option (List Way) :=
  match p.code[way.address]? with
  | none | some .fail => some []
  | some .accept => none
  | some (.take chars next) =>
    match subject[way.place]? with
    | none => some []
    | some c =>
      if chars.contains c then some [{ way with address := next, place := way.place + 1 }]
      else some []
  | some (.check l next) =>
    let before := if way.place = 0 then none else subject[way.place - 1]?
    if l.holds before subject[way.place]? then some [{ way with address := next }] else some []
  | some (.save slot next) =>
    some [{ way with address := next, slots := way.slots.set slot (some way.place) }]
  | some (.fork first second) =>
    some [{ way with address := first }, { way with address := second }]

/-- Tries the ways in their order. Gives the place and the slots of the first match. -/
def explore (p : Program) (subject : Array Char) :
    Nat → Tried → List Way → Option (Nat × Slots) × Tried
  | 0, tried, _ => (none, tried)
  | _, tried, [] => (none, tried)
  | fuel + 1, tried, way :: others =>
    let bits := tried.getD way.place 0
    if bits.testBit way.address then explore p subject fuel tried others
    else
      match p.ways? subject way with
      | none => (some (way.place, way.slots), tried)
      | some next =>
        let tried := tried.setIfInBounds way.place (bits ||| 1 <<< way.address)
        explore p subject fuel tried (next ++ others)

/-- No way forks into more than two, so this many steps try all addresses at all places. -/
def bound (p : Program) (subject : Array Char) : Nat :=
  2 * p.code.size * (subject.size + 1) + 1

def searchFrom (p : Program) (subject : Array Char) (slots : Slots) :
    Nat → Nat → Tried → Option (Nat × Nat × Slots)
  | 0, _, _ => none
  | n + 1, start, tried =>
    match p.explore subject (p.bound subject) tried [{ address := p.start, place := start, slots }]
      with
    | (some (stop, slots), _) => some (start, stop, slots)
    | (none, tried) => searchFrom p subject slots n (start + 1) tried

/-- The preferred match that starts leftmost. -/
def search (p : Program) (subject : Array Char) (groupCount : Nat) : Option (Nat × Nat × Slots) :=
  p.searchFrom subject (List.replicate (2 * groupCount) none) (subject.size + 1) 0
    (Array.replicate (subject.size + 1) 0)

end Program

end Reroute.Pattern
