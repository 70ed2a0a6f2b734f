import Reroute.Proofs.Pass.Recurrence

/-!
# Rules that depend on the rule before them

A pass keeps one truth value for the rule before: whether the last rule that was tried fired. A rule
that is skipped, held back by its conditions or by the rule before it leaves this value alone, and so
do conditions. So the value can be read off the history of the pass, across all walks: it is the gate
through which a rule has to go that depends on the one before it. A gate that is shut is opened again
only by a rule that does not depend on it.
-/

namespace Reroute.Pass

/-- Whether a visit was one to a rule, and its pattern was tried. -/
def Visit.tries (v : Visit) : Bool :=
  match v.directive with
  | .condition _ => false
  | .rule r => r.isTried v.state

/-- The last rule that was tried fired, or none was tried. -/
def GateOpen (path : Text) (visits : List Visit) : Prop :=
  ∀ v, (visits.filter Visit.tries).getLast? = some v → ∃ r, v.Fires path r

variable {directives : List Directive} {facts : Facts} {path : Text} {c c' : Config}
  {visits before later : List Visit} {v : Visit} {state : State}

/-! ### One visit -/

@[simp]
theorem State.passOver_previousFired (state : State) :
    state.passOver.previousFired = state.previousFired := by
  unfold State.passOver
  split_ifs <;> rfl

theorem forall_getLast?_filter_concat (p : Visit → Bool) (P : Visit → Prop) (v : Visit) :
    (∀ w, ((visits ++ [v]).filter p).getLast? = some w → P w) ↔
      if p v then P v else ∀ w, (visits.filter p).getLast? = some w → P w := by
  cases hv : p v <;> simp [List.filter_append, hv]

theorem gateOpen_nil : GateOpen path [] := by simp [GateOpen]

theorem gateOpen_concat (v : Visit) :
    GateOpen path (visits ++ [v]) ↔
      if v.tries then ∃ r, v.Fires path r else GateOpen path visits :=
  forall_getLast?_filter_concat Visit.tries _ v

theorem gateOpen_append (h : ∀ w ∈ later, w.tries = false) :
    GateOpen path (before ++ later) ↔ GateOpen path before := by
  have hlater : later.filter Visit.tries = [] := List.filter_eq_nil_iff.mpr (by simpa using h)
  rw [GateOpen, List.filter_append, hlater, List.append_nil, GateOpen]

theorem Visit.Fires.tries {r : Rule} (h : v.Fires path r) : v.tries = true := by
  obtain ⟨d, state⟩ := v
  obtain ⟨rfl, state', course, hvisit⟩ := h
  cases Rule.visited_of_visit hvisit with
  | fired htried _ _ _ => exact htried

/-- A visit keeps the truth value unless it tries a rule, and then the value says whether it fires. -/
theorem previousFired_iff_of_visit {d : Directive} {state' : State} {course : Option Course}
    (hvisit : d.visit path state = .ok (state', course)) :
    state'.previousFired = true ↔
      if Visit.tries ⟨d, state⟩ then ∃ r, Visit.Fires ⟨d, state⟩ path r
      else state.previousFired = true := by
  cases d with
  | condition condition =>
      change _ ↔ state.previousFired = true
      cases Condition.visited_of_visit (Directive.visit_condition hvisit) <;> rfl
  | rule r =>
      rw [Directive.visit] at hvisit
      change _ ↔ if r.isTried state then ∃ r', Visit.Fires ⟨.rule r, state⟩ path r' else _
      cases htried : r.isTried state with
      | false =>
          rw [Rule.visit_of_not_isTried htried, Except.ok.injEq, Prod.mk.injEq] at hvisit
          rw [← hvisit.1, State.passOver_previousFired]
          simp
      | true =>
          rw [if_pos rfl]
          cases course with
          | some course =>
              exact iff_of_true (Rule.previousFired_of_visit hvisit) ⟨r, rfl, state', course, hvisit⟩
          | none =>
              rw [Rule.missed_of_visit htried hvisit]
              refine iff_of_false Bool.false_ne_true ?_
              rintro ⟨r', hrule, state'', course, hfires⟩
              obtain rfl := Directive.rule.inj hrule
              simp [hvisit] at hfires

/-- A rule that depends on the one before it does nothing behind one that was tried in vain. -/
theorem visit_of_chain {r : Rule} (hchain : r.flags.chain = true)
    (hprevious : ¬ state.previousFired = true) :
    r.visit path state = .ok (state.passOver, none) := by
  refine Rule.visit_of_not_isTried ?_
  rw [Bool.eq_false_iff, ne_eq, Rule.isTried_iff]
  exact fun htried => hprevious (htried.2.2 hchain)

/-! ### Whole histories -/

theorem History.previousFired_iff (hvisits : History directives path c visits c')
    (hstart : c.state.previousFired = true) :
    c'.state.previousFired = true ↔ GateOpen path visits := by
  refine hvisits.invariant
    (P := fun visits state => state.previousFired = true ↔ GateOpen path visits) ?_ ?_
  · exact iff_of_true hstart gateOpen_nil
  · intro visits d state state' course ih hvisit
    rw [previousFired_iff_of_visit hvisit, gateOpen_concat, ih]

theorem not_gateOpen_of_missed (htries : v.tries = true) (hmissed : ∀ r, ¬ v.Fires path r)
    (hlater : ∀ w ∈ later, w.tries = false) : ¬ GateOpen path (before ++ v :: later) := by
  have hcons : before ++ v :: later = before ++ [v] ++ later := by simp
  rw [hcons, gateOpen_append hlater, gateOpen_concat, if_pos htries]
  exact fun ⟨r, hfires⟩ => hmissed r hfires

theorem History.tries_eq_false (hvisits : History directives path c (before ++ v :: later) c')
    (hstart : c.state.previousFired = true) (htries : v.tries = true)
    (hmissed : ∀ r, ¬ v.Fires path r)
    (hchain : ∀ w ∈ later, w.tries = true → ∃ r, w.directive = .rule r ∧ r.flags.chain = true) :
    ∀ w ∈ later, w.tries = false := by
  induction later using List.reverseRecOn generalizing c' with
  | nil => simp
  | append_singleton later w ih =>
      rw [List.forall_mem_append, List.forall_mem_singleton] at hchain ⊢
      rw [← List.cons_append, ← List.append_assoc] at hvisits
      obtain ⟨c₁, ahead, c₂, hvisits, -, hstate, -, -⟩ := hvisits.exists_of_append_cons
      have hlater := ih hvisits hchain.1
      refine ⟨hlater, ?_⟩
      -- The gate is still shut when the pass comes to the last of the visits.
      have hshut : ¬ GateOpen path (before ++ v :: later) :=
        not_gateOpen_of_missed htries hmissed hlater
      rw [← hvisits.previousFired_iff hstart, hstate] at hshut
      by_contra htried
      rw [Bool.not_eq_false] at htried
      obtain ⟨r, hrule, hr⟩ := hchain.2 htried
      rw [Visit.tries, hrule] at htried
      exact hshut ((Rule.isTried_iff.mp htried).2.2 hr)

/-- **A rule that depends on the one before it is tried if the last rule that was tried fired.** It
is tried as well if none was tried at all, and otherwise it does nothing. Rules that are skipped or
held back in between do not count. So once a rule was tried in vain, and until one is tried that does
not depend on another, none is tried, and a rule that depends on another neither fires nor fails,
whatever its pattern and its flags. A pass that is begun anew finds the gate open, and so it stays
until a rule is tried. -/
theorem chained_rule_tried_iff (hvisits : Reaches directives facts visits c) :
    (c.state.previousFired = true ↔ GateOpen facts.applicationPath visits) ∧
    (∀ r ahead, c.rest = .rule r :: ahead → r.flags.chain = true → c.state.skip = 0 →
      c.state.conditionsHold = true →
        (r.isTried c.state = true ↔ GateOpen facts.applicationPath visits) ∧
        (GateOpen facts.applicationPath visits →
          r.visit facts.applicationPath c.state = r.attempt facts.applicationPath c.state) ∧
        (¬ GateOpen facts.applicationPath visits →
          step directives facts.applicationPath c = some (.ok (c.pass ahead c.state)))) ∧
    (∀ before v later, visits = before ++ v :: later → v.tries = true →
      (∀ r, ¬ v.Fires facts.applicationPath r) →
      (∀ w ∈ later, w.tries = true → ∃ r, w.directive = .rule r ∧ r.flags.chain = true) →
        (∀ w ∈ later, w.tries = false) ∧
        ∀ r : Rule, r.flags.chain = true →
          r.visit facts.applicationPath c.state = .ok (c.state.passOver, none)) ∧
    ∀ before later c₁, visits = before ++ later → BegunAnew directives facts before c₁ →
      c₁.rest = directives ∧ GateOpen facts.applicationPath before ∧
        ((∀ w ∈ later, w.tries = false) → GateOpen facts.applicationPath visits) := by
  have hgate := hvisits.previousFired_iff rfl
  refine ⟨hgate, ?_, ?_, ?_⟩
  · intro r ahead hrest hchain hskip hhold
    have htried : r.isTried c.state = true ↔ GateOpen facts.applicationPath visits := by
      rw [Rule.isTried_iff, ← hgate]
      simp [hskip, hhold, hchain]
    refine ⟨htried, fun hopen => Rule.visit_of_isTried (htried.mpr hopen), fun hshut => ?_⟩
    have hsame : c.state.passOver = c.state := by
      rw [State.passOver, if_neg (by omega), ← hhold]
    rw [step_of_rest hrest, Directive.visit, visit_of_chain hchain (hgate.not.mpr hshut), hsame]
  · rintro before v later rfl htries hmissed hchain
    have hlater := hvisits.tries_eq_false rfl htries hmissed hchain
    refine ⟨hlater, fun r hr => visit_of_chain hr (hgate.not.mpr ?_)⟩
    exact not_gateOpen_of_missed htries hmissed hlater
  · rintro before later c₁ rfl hanew
    obtain ⟨hrest, -, hprevious⟩ := hanew.rest_eq
    have hopen := (hanew.1.previousFired_iff rfl).mp hprevious
    exact ⟨hrest, hopen, fun hlater => (gateOpen_append hlater).mpr hopen⟩

/-- The first rule begins the pass anew and is then tried in vain. The second is held back by its
condition, and the third has a pattern that is not valid. -/
private def chainedRules : List Directive := [
  .rule (.onChar 1 'a' "/b" ["C", "N"]),
  .condition (.ofFields 2 [] ⟨['x'], ['=', 'y'], []⟩),
  .rule (.onChar 3 'b' "/c" []),
  .rule { Rule.onChar 4 'b' "/d" ["C"] with pattern := none }]

private def chainedRequest : Facts where
  url := "/a".toList
  now := ⟨2000, 1, 1, 0, 0, 0⟩

theorem chained_rule_tried_iff_of_held_back :
    ∃ visits c, Reaches chainedRules chainedRequest visits c ∧ c.restarts = 1 ∧
      (visits.filter Visit.tries).length = 2 ∧ ¬ GateOpen [] visits ∧
      step chainedRules [] c = some (.ok (c.pass [] c.state)) := by
  have hvisits : Reaches chainedRules chainedRequest _ _ :=
    .snoc (.snoc (.snoc (.snoc .nil rfl rfl) rfl rfl) rfl rfl) rfl rfl
  obtain ⟨hgate, hrule, -⟩ := chained_rule_tried_iff hvisits
  have hshut : ¬ GateOpen [] _ := fun hopen => Bool.false_ne_true (hgate.mpr hopen)
  exact ⟨_, _, hvisits, rfl, rfl, hshut, (hrule _ _ rfl rfl rfl rfl).2.2 hshut⟩

end Reroute.Pass
