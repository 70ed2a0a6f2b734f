import Reroute.Text

/-!
Sets of characters as ranges of code points, and the written form of the Unicode tables.
-/

namespace Reroute.Unicode

/-- A set of characters: ranges of code points in ascending order that do not touch. -/
structure CharSet where
  ranges : List (Nat × Nat)
  deriving DecidableEq, Repr

namespace CharSet

def maxPoint : Nat := 0x10FFFF

def contains (s : CharSet) (c : Char) : Bool :=
  s.ranges.any fun (first, last) => first ≤ c.toNat && c.toNat ≤ last

def empty : CharSet := ⟨[]⟩

def full : CharSet := ⟨[(0, maxPoint)]⟩

def isEmpty (s : CharSet) : Bool := s.ranges.isEmpty

/-- Joins a range with those that overlap or touch it. They have to come in the order of their
first points. -/
def joinRange (first last : Nat) : List (Nat × Nat) → List (Nat × Nat)
  | [] => [(first, last)]
  | (first', last') :: rest =>
    if first' ≤ last + 1 then joinRange first (max last last') rest
    else (first, last) :: joinRange first' last' rest

def joinRanges : List (Nat × Nat) → List (Nat × Nat)
  | [] => []
  | (first, last) :: rest => joinRange first last rest

def ofRanges (ranges : List (Nat × Nat)) : CharSet :=
  ⟨joinRanges (ranges.mergeSort fun a b => a.1 ≤ b.1)⟩

def singleton (c : Char) : CharSet := ⟨[(c.toNat, c.toNat)]⟩

def union (s t : CharSet) : CharSet := ofRanges (s.ranges ++ t.ranges)

/-- The ranges from a point on that are left out by ranges in ascending order. -/
def gapsFrom (point : Nat) : List (Nat × Nat) → List (Nat × Nat)
  | [] => if point ≤ maxPoint then [(point, maxPoint)] else []
  | (first, last) :: rest =>
    if point < first then (point, first - 1) :: gapsFrom (last + 1) rest
    else gapsFrom (last + 1) rest

def complement (s : CharSet) : CharSet := ⟨gapsFrom 0 s.ranges⟩

def inter (s t : CharSet) : CharSet := (s.complement.union t.complement).complement

def difference (s t : CharSet) : CharSet := s.inter t.complement

def symmetricDifference (s t : CharSet) : CharSet := (s.difference t).union (t.difference s)

def ofList (cs : List Char) : CharSet := ofRanges (cs.map fun c => (c.toNat, c.toNat))

def hexDigit? (c : Char) : Option Nat :=
  if '0' ≤ c ∧ c ≤ '9' then some (c.toNat - '0'.toNat)
  else if 'A' ≤ c ∧ c ≤ 'F' then some (c.toNat - 'A'.toNat + 10)
  else if 'a' ≤ c ∧ c ≤ 'f' then some (c.toNat - 'a'.toNat + 10)
  else none

def hexValue? (t : Text) : Option Nat :=
  if t.isEmpty then none
  else t.foldl (fun n? c => do return 16 * (← n?) + (← hexDigit? c)) (some 0)

def range? (t : Text) : Option (Nat × Nat) := do
  let first ← hexValue? (Text.before '-' t)
  if '-' ∈ t then return (first, ← hexValue? (Text.after '-' t)) else return (first, first)

def ofLines (lines : List String) : CharSet :=
  ofRanges ((lines.flatMap fun line => Text.runs (· == ' ') line.toList).filterMap range?)

/-- The runs of a table, given by its lines: where each run starts and the name that stands
behind it in `width` characters. -/
def readRuns (width : Nat) (lines : List String) : List (Nat × Text) :=
  (lines.flatMap fun line => Text.runs (· == ' ') line.toList).filterMap fun run =>
    (hexValue? (run.take (run.length - width))).map fun start =>
      (start, run.drop (run.length - width))

/-- The ranges of the runs with one of the names. A run ends where the next one starts. -/
def rangesOfRuns (names : List Text) : List (Nat × Text) → List (Nat × Nat)
  | [] => []
  | [(start, name)] => if names.contains name then [(start, maxPoint)] else []
  | (start, name) :: (next, name') :: rest =>
    let ranges := rangesOfRuns names ((next, name') :: rest)
    if names.contains name then (start, next - 1) :: ranges else ranges

def ofTable (table : List (Nat × Text)) (names : List String) : CharSet :=
  ofRanges (rangesOfRuns (names.map String.toList) table)

end CharSet

end Reroute.Unicode
