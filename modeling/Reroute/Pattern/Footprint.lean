import Reroute.Pattern.Normal
import Reroute.Pattern.Utf8
import Std.Data.HashMap

/-!
The size of the automata of a pattern, over the bytes of UTF-8.

A pattern has two automata: one reads a subject forward and notes the groups, the other reads it
backward to find where a match starts. Counted repetitions multiply their states, and a pattern is
refused if one of the two would take more than ten megabytes.
-/

namespace Reroute.Pattern

open Unicode (CharSet)

def stateSize : Nat := 32

def transitionSize : Nat := 8

def wayOutSize : Nat := 4

def maxSize : Nat := 10485760

def forwardSlots : Nat := 10000

def backwardSlots : Nat := 1000

inductive Direction where
  | forward
  | backward
  deriving DecidableEq, Repr

namespace Direction

def order {α : Type} (d : Direction) (xs : List α) : List α :=
  match d with
  | .forward => xs
  | .backward => xs.reverse

def origin : Direction → Look
  | .forward => .start
  | .backward => .stop

end Direction

structure Layout where
  states : Nat := 0
  further : Nat := 0
  /-- For each slot in use, where a state of a set leads to, and that state. -/
  shared : Std.HashMap Nat (List Nat × Nat) := {}

namespace Layout

def size (l : Layout) : Nat := stateSize * l.states + l.further

end Layout

/-- A step of laying out an automaton; it has no result where the automaton grows too large. -/
abbrev Lay := StateT Layout Option

namespace Lay

def state (further : Nat) : Lay Nat := fun l =>
  let grown := { l with states := l.states + 1, further := l.further + further }
  if grown.size ≤ maxSize then some (l.states, grown) else none

theorem size_of_state {further added : Nat} {l grown : Layout}
    (h : state further l = some (added, grown)) :
    grown.size = l.size + stateSize + further ∧ grown.size ≤ maxSize := by
  simp only [state] at h
  split at h
  · next fit =>
    obtain ⟨rfl, rfl⟩ := Prod.mk.inj (Option.some.inj h)
    exact ⟨by simp only [Layout.size, stateSize]; omega, fit⟩
  · simp at h

def plain : Lay Unit := do let _ ← state 0

def fork (ways : Nat) : Lay Unit := do let _ ← state (wayOutSize * ways)

def times : Nat → Lay Unit → Lay Unit
  | 0, _ => pure ()
  | n + 1, step => do
    step
    times n step

def inOrder : List (Lay Unit) → Lay Unit
  | [] => pure ()
  | step :: steps => do
    step
    inOrder steps

/-- The slot of a list of numbers: a product over its numbers, each mixed in before the next
multiplication. -/
def slotOf (slots : Nat) (key : List Nat) : Nat :=
  let mixed : UInt64 :=
    key.foldl (fun h n => (h ^^^ n.toUInt64) * 1099511628211) 14695981039346656037
  mixed.toNat % slots

/-- The state that leads where `key` says. It is added unless its slot still holds it, for a slot
holds the last state only. -/
def share (slots further : Nat) (key : List Nat) : Lay Nat := do
  let slot := slotOf slots key
  match (← get).shared[slot]? with
  | some (key', found) => if key' = key then return found else add slot
  | none => add slot
where
  add (slot : Nat) : Lay Nat := do
    let added ← state further
    modify fun l => { l with shared := l.shared.insert slot (key, added) }
    return added

def unshare : Lay Unit := modify fun l => { l with shared := {} }

/-- Byte ranges taken from the last one to the first: each sequence is a chain of states that ends
in `target`. Sequences share the states that lead to their ends. -/
def chain (target : Nat) (ranges : ByteRanges) : Lay Nat :=
  ranges.foldlM (fun next (first, last) => share backwardSlots 0 [next, first, last]) target

def groupByHead : List ByteRanges → List ((Nat × Nat) × List ByteRanges)
  | [] => []
  | [] :: rest => groupByHead rest
  | (range :: tail) :: rest =>
    match groupByHead rest with
    | (range', tails) :: groups =>
      if range = range' then (range, tail :: tails) :: groups
      else (range, [tail]) :: (range', tails) :: groups
    | [] => [(range, [tail])]

/-- Byte ranges taken from the first one to the last: a state has a transition for every range
that a sequence can start with. States with the same transitions are shared. -/
def tree (target : Nat) : Nat → List ByteRanges → Lay Nat
  | 0, _ => return target
  | depth + 1, sequences => do
    let transitions ← (groupByHead sequences).mapM fun (range, tails) => do
      let next ← if tails.all (·.isEmpty) then pure target else tree target depth tails
      return [range.1, range.2, next]
    share forwardSlots (transitionSize * transitions.length) transitions.flatten

def maxBytes : Nat := 4

def set (d : Direction) (chars : CharSet) : Lay Unit := do
  if chars.ranges.all (·.2 < 0x80) then
    plain
    let _ ← state (transitionSize * chars.ranges.length)
  else
    let sequences := Utf8.sequences chars.ranges
    unshare
    match d with
    | .forward =>
      let target ← state 0
      let _ ← tree target maxBytes sequences
    | .backward =>
      fork sequences.length
      let target ← state 0
      sequences.forM fun ranges => do let _ ← chain target ranges

/-- The texts up to the first empty one, those from there to the next, and so on. -/
def splitAtEmpty : List (List Nat) → List (List (List Nat))
  | [] => [[]]
  | [] :: rest => [] :: splitAtEmpty rest
  | t :: rest =>
    match splitAtEmpty rest with
    | group :: groups => (t :: group) :: groups
    | [] => [[t]]

def dropEmpty (texts : List (List Nat)) : List (List Nat) :=
  match texts with
  | [] :: rest => [] :: rest.dropWhile (·.isEmpty)
  | texts => texts

/-- Adds a choice between texts, in which those with the same start share their states. An empty
text ends the choice for those before it, which later texts do not join. -/
def trie : Nat → List (List Nat) → Lay Unit
  | 0, _ => pure ()
  | depth + 1, texts => do
    let groups := splitAtEmpty (dropEmpty texts)
    groups.forM fun group => do
      let heads := (group.filterMap List.head?).eraseDups
      heads.forM fun byte => do
        let tails := (group.filter (·.head? == some byte)).map List.tail
        if tails.any (!·.isEmpty) then trie depth tails
      if heads.length = 1 then plain
      else if 1 < heads.length then let _ ← state (transitionSize * heads.length)
    fork ((groups.filter (!·.isEmpty)).length + groups.length - 1)

def anyBytes : Lay Unit := do
  fork 2
  plain
  let _ ← state transitionSize

def choice : List (Lay Unit) → Lay Unit
  | first :: second :: others => do
    first
    second
    fork (others.length + 2)
    plain
    inOrder others
  | steps => inOrder steps

/-- Repeats a step. Where a round may take no character, the first round has a fork of its own. -/
def repetition (step : Lay Unit) (takesCharacter : Bool) (min : Nat) (max : Option Nat) :
    Lay Unit := do
  match max with
  | none =>
    if min = 0 ∧ takesCharacter then
      fork 2
      step
    else
      times (Nat.max min 1) step
      fork 2
      if min = 0 then
        fork 2
        plain
  | some max =>
    if min = 0 ∧ max = 1 then
      fork 2
      step
      plain
    else
      if min = 0 then plain else times min step
      if min < max then
        plain
        times (max - min) do
          fork 2
          step

end Lay

namespace Expr

mutual

/-- Whether a match, read in a direction, can start only where the reading starts. -/
def isAnchored (d : Direction) : Expr → Bool
  | .look l => l == d.origin
  | .capture _ body => isAnchored d body
  | .repetition body min _ _ => 0 < min && isAnchored d body
  | .concat parts =>
    let parts := d.order (anchors d parts)
    (parts.take ((parts.takeWhile (·.2)).length + 1)).any (·.1)
  | .choice branches => (anchors d branches).all (·.1)
  | _ => false

/-- Which of several expressions are anchored, and which match the empty text alone. -/
def anchors (d : Direction) : List Expr → List (Bool × Bool)
  | [] => []
  | e :: es => (isAnchored d e, isEmptyOnly e) :: anchors d es

end

mutual

/-- Adds an expression. Groups are noted in the forward direction alone. -/
def lay (d : Direction) : Expr → Lay Unit
  | .empty => .plain
  | .text t => .times (Utf8.encodeAll t).length .plain
  | .set chars => .set d chars
  | .look _ => .plain
  | .capture _ body =>
    match d with
    | .forward => .inOrder [.plain, lay d body, .plain]
    | .backward => lay d body
  | .repetition body min max _ => .repetition (lay d body) body.takesCharacter min max
  | .concat parts => .inOrder (d.order (layAll d parts))
  | .choice branches =>
    match branches.mapM text? with
    | some texts =>
      let texts := texts.map fun t => d.order (Utf8.encodeAll t)
      .inOrder [.plain, .trie ((texts.map List.length).foldl max 0 + 1) texts]
    | none => .choice (layAll d branches)

def layAll (d : Direction) : List Expr → List (Lay Unit)
  | [] => []
  | e :: es => lay d e :: layAll d es

end

/-- Lays out the automaton of an expression: a loop that looks for the start of a match, unless
there is only one place for it, then the expression as the first group, then the state of a match. -/
def automaton (d : Direction) (e : Expr) : Lay Unit := do
  if e.isAnchored d then .plain else .anyBytes
  lay d (.capture 0 e)
  .plain

def fits (e : Expr) : Bool :=
  ((automaton .forward e).run {}).isSome && ((automaton .backward e).run {}).isSome

end Expr

end Reroute.Pattern
