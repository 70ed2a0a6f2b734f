import Reroute.Proofs.Pass.Guards
import Reroute.Proofs.Rules.Flags
import Reroute.Proofs.Rules.OneChar

/-!
# The rules that a skip passes over

A rule that fires may have rules passed over. They are the next ones that the pass visits, as many
as the skip says, wherever they stand and whether or not the pass has begun anew before. Conditions
do not count and are put to the test all the same, so that what they say is there for the first rule
behind the skip. The point is that what is left of a skip and the rules visited since make up the
number that was asked for: so the skip ends where it should, and nothing else is passed over for it.
-/

namespace Reroute

open Pass

theorem Condition.visit_withSkip (c : Condition) (state : State) (skip : Nat) :
    c.visit { state with skip } = (c.visit state).map fun state' => { state' with skip } := by
  have hevaluated : c.isEvaluated { state with skip } = c.isEvaluated state := rfl
  have hverdict : c.verdict { state with skip } = c.verdict state := rfl
  unfold visit
  rw [hevaluated, hverdict]
  split_ifs
  · cases c.verdict state <;> rfl
  · rfl

theorem Rule.visit_of_skip_pos (r : Rule) (path : Text) {state : State}
    (hskip : 0 < state.skip) :
    r.visit path state = .ok ({ state with skip := state.skip - 1 }, none) := by
  have htried : r.isTried state = false := by
    rw [Bool.eq_false_iff, ne_eq, Rule.isTried_iff]
    omega
  rw [Rule.visit_of_not_isTried htried, State.passOver, if_pos hskip]

theorem Rule.visit_of_skip_eq_zero (r : Rule) (path : Text) {state : State}
    (hskip : state.skip = 0) :
    r.visit path state =
      if state.conditionsHold && (!r.flags.chain || state.previousFired) then r.attempt path state
      else .ok ({ state with conditionsHold := true }, none) := by
  unfold Rule.visit Rule.isTried State.passOver
  simp [hskip]

namespace Pass

def Visit.isRule (v : Visit) : Bool :=
  match v.directive with
  | .condition _ => false
  | .rule _ => true

def ruleVisits (visits : List Visit) : Nat := visits.countP (·.isRule)

/-- What the conditions among the visits make of a state, put to the test one after the other. -/
def visitConditions (visits : List Visit) (state : State) : Except Fault State :=
  (visits.filterMap Visit.guard?).foldlM (fun state g => g.condition.visit state) state

/-- Whether a visit was one to a rule that fired, did not end the pass and asked to skip this number
of rules, and left this state. -/
def Visit.Skips (v : Visit) (path : Text) (n : Nat) (after : State) : Prop :=
  ∃ r course, v.directive = .rule r ∧ r.visit path v.state = .ok (after, some course) ∧
    course ≠ .stop ∧ r.flags.skip = some n

/-- Whether a skip is under way after the visits: it asked for more rules than have been visited
since. -/
def Skipping (path : Text) (visits : List Visit) : Prop :=
  ∃ before v later n after, visits = before ++ v :: later ∧ v.Skips path n after ∧
    ruleVisits later < n

variable {directives : List Directive} {facts : Facts} {path : Text} {c c' : Config}
  {visits before later : List Visit} {v : Visit} {state after : State} {n : Nat}

/-! ### One visit -/

theorem ruleVisits_concat_rule (r : Rule) (state : State) :
    ruleVisits (visits ++ [⟨.rule r, state⟩]) = ruleVisits visits + 1 := by
  simp [ruleVisits, Visit.isRule]

theorem ruleVisits_concat_condition (condition : Condition) (state : State) :
    ruleVisits (visits ++ [⟨.condition condition, state⟩]) = ruleVisits visits := by
  simp [ruleVisits, Visit.isRule]

theorem visitConditions_concat_rule (r : Rule) (state start : State) :
    visitConditions (visits ++ [⟨.rule r, state⟩]) start = visitConditions visits start := by
  rw [visitConditions, List.filterMap_append, List.foldlM_append]
  exact bind_pure _

theorem visitConditions_concat_condition (condition : Condition) (state start : State) :
    visitConditions (visits ++ [⟨.condition condition, state⟩]) start =
      visitConditions visits start >>= condition.visit := by
  rw [visitConditions, List.filterMap_append, List.foldlM_append]
  simp [visitConditions, Visit.guard?]

theorem Visit.Skips.skip_eq (h : v.Skips path n after) : after.skip = n := by
  obtain ⟨r, course, -, hvisit, hcourse, hskip⟩ := h
  rw [Rule.skip_of_visit hvisit hcourse, hskip, Option.getD_some]

theorem Visit.Skips.previousFired_eq (h : v.Skips path n after) : after.previousFired = true := by
  obtain ⟨r, course, -, hvisit, -, -⟩ := h
  exact Rule.previousFired_of_visit hvisit

theorem Visit.Skips.skipping_concat {w : Visit} (hv : v.Skips path n after)
    (hcount : ruleVisits (later ++ [w]) < n) : Skipping path (before ++ v :: later ++ [w]) :=
  ⟨before, v, later ++ [w], n, after, by rw [List.append_assoc, List.cons_append], hv, hcount⟩

/-! ### While a skip is under way -/

/-- What is left of a skip and the rules visited since make up the number that was asked for. The
conditions have had their say, and nothing else has happened. -/
structure Remains (n : Nat) (after : State) (later : List Visit) (state : State) : Prop where
  skip : state.skip + ruleVisits later = n
  previousFired : state.previousFired = after.previousFired
  conditions : visitConditions later { after with skip := 0 } = .ok { state with skip := 0 }

theorem Remains.rule (h : Remains n after later state) (hskip : 0 < state.skip) (r : Rule) :
    Remains n after (later ++ [⟨.rule r, state⟩]) { state with skip := state.skip - 1 } where
  skip := by
    have := h.skip
    rw [ruleVisits_concat_rule]
    dsimp only
    omega
  previousFired := h.previousFired
  conditions := by rw [visitConditions_concat_rule, h.conditions]

theorem Remains.condition {state' : State} {condition : Condition}
    (h : Remains n after later state) (hvisit : condition.visit state = .ok state') :
    Remains n after (later ++ [⟨.condition condition, state⟩]) state' := by
  have hvisited := Condition.visited_of_visit hvisit
  refine ⟨?_, ?_, ?_⟩
  · rw [ruleVisits_concat_condition, ← h.skip]
    cases hvisited <;> rfl
  · rw [← h.previousFired]
    cases hvisited <;> rfl
  · rw [visitConditions_concat_condition, h.conditions]
    change condition.visit { state with skip := 0 } = _
    rw [condition.visit_withSkip, hvisit]
    rfl

theorem History.remains (hvisits : History directives path c visits c') (hskip : c.state.skip = n)
    (hcount : ruleVisits visits ≤ n) : Remains n c.state visits c'.state := by
  revert hcount
  refine hvisits.invariant
    (P := fun visits state => ruleVisits visits ≤ n → Remains n c.state visits state) ?_ ?_
  · intro _
    exact ⟨hskip, rfl, rfl⟩
  · intro visits d state state' course ih hvisit
    cases d with
    | condition condition =>
        rw [ruleVisits_concat_condition]
        intro hcount
        exact (ih hcount).condition (Directive.visit_condition hvisit)
    | rule r =>
        rw [ruleVisits_concat_rule]
        intro hcount
        have hremains := ih (by omega)
        have hpos : 0 < state.skip := by
          have := hremains.skip
          omega
        rw [Directive.visit, Rule.visit_of_skip_pos r path hpos, Except.ok.injEq,
          Prod.mk.injEq] at hvisit
        rw [← hvisit.1]
        exact hremains.rule hpos r

theorem History.remains_of_skips (hvisits : History directives path c (before ++ v :: later) c')
    (hv : v.Skips path n after) (hcount : ruleVisits later ≤ n) :
    Remains n after later c'.state := by
  obtain ⟨c₁, ahead, c₂, -, hrest, hstate, hstep, hlater⟩ := hvisits.exists_of_append_cons
  have hafter : c₂.state = after := by
    obtain ⟨r, course, hrule, hvisit, -, -⟩ := hv
    obtain ⟨course', hvisit'⟩ := visit_of_step hrest hstep
    rw [hrule, hstate, Directive.visit, hvisit, Except.ok.injEq, Prod.mk.injEq] at hvisit'
    exact hvisit'.1.symm
  rw [← hafter]
  exact hlater.remains (hafter ▸ hv.skip_eq) hcount

/-! ### Whole histories -/

theorem History.skipping_of_skip_pos (hvisits : History directives path c visits c')
    (hstart : c.state.skip = 0) (hrest : c'.rest ≠ []) (hskip : 0 < c'.state.skip) :
    Skipping path visits := by
  induction hvisits with
  | nil => omega
  | @snoc visits d ahead c' c'' hvisits hahead hstep ih =>
      specialize ih (by simp [hahead])
      obtain ⟨state, hvisit, rfl⟩ | ⟨r, state, course, rfl, hvisit, rfl⟩ := step_cases hahead hstep
      · change 0 < state.skip at hskip
        cases d with
        | condition condition =>
            have hsame : state.skip = c'.state.skip := by
              cases Condition.visited_of_visit (Directive.visit_condition hvisit) <;> rfl
            obtain ⟨before, v, later, n, after, rfl, hv, hcount⟩ := ih (hsame ▸ hskip)
            exact hv.skipping_concat (by rwa [ruleVisits_concat_condition])
        | rule r =>
            -- The rule is one of those that the skip has asked for, and not the last of them.
            rw [Rule.skip_of_visit_none hvisit] at hskip
            obtain ⟨before, v, later, n, after, rfl, hv, hcount⟩ := ih (by omega)
            have hleft := (hvisits.remains_of_skips hv (Nat.le_of_lt hcount)).skip
            refine hv.skipping_concat ?_
            rw [ruleVisits_concat_rule]
            omega
      · have hcourse : course ≠ .stop := by
          rintro rfl
          exact hrest rfl
        change 0 < state.skip at hskip
        rw [Rule.skip_of_visit hvisit hcourse] at hskip
        cases hasked : r.flags.skip with
        | none => simp [hasked] at hskip
        | some n =>
            rw [hasked, Option.getD_some] at hskip
            exact ⟨visits, ⟨.rule r, c'.state⟩, [], n, state, rfl,
              ⟨r, course, rfl, hvisit, hcourse, hasked⟩, hskip⟩

theorem History.skip_pos_of_skipping (hvisits : History directives path c visits c')
    (h : Skipping path visits) : 0 < c'.state.skip := by
  obtain ⟨before, v, later, n, after, rfl, hv, hcount⟩ := h
  have hleft := (hvisits.remains_of_skips hv (Nat.le_of_lt hcount)).skip
  omega

/-- **A skip passes over as many rules as it says.** Once a rule has fired that asks to skip some
rules, whether or not it begins the pass anew, and until that many have been visited, what is left of
the skip and the rules visited since make up the number that was asked for, and of the visits only
those to conditions have changed anything else. A condition does the same as without a skip. While a
skip is under way, a rule that the pass comes to does nothing but count, whatever its pattern and its
flags, and the pass goes on behind it. At any other rule nothing is left of a skip, and the
conditions and the rule before it decide as usual. What a rule asks for is what the last token for a
skip says that can be used. -/
theorem skip_passes_over_rules (hvisits : Reaches directives facts visits c) :
    (∀ before v later n after, visits = before ++ v :: later →
      v.Skips facts.applicationPath n after → ruleVisits later ≤ n →
        c.state.skip + ruleVisits later = n ∧ c.state.previousFired = true ∧
        visitConditions later { after with skip := 0 } = .ok { c.state with skip := 0 } ∧
        (Skipping facts.applicationPath visits ↔ ruleVisits later < n)) ∧
    (∀ (condition : Condition) skip, condition.visit { c.state with skip } =
      (condition.visit c.state).map fun state => { state with skip }) ∧
    (∀ r ahead, c.rest = .rule r :: ahead →
      (Skipping facts.applicationPath visits → 0 < c.state.skip ∧
        (∀ other : Rule, other.visit facts.applicationPath c.state =
          .ok ({ c.state with skip := c.state.skip - 1 }, none)) ∧
        step directives facts.applicationPath c =
          some (.ok (c.pass ahead { c.state with skip := c.state.skip - 1 }))) ∧
      (¬ Skipping facts.applicationPath visits → c.state.skip = 0 ∧
        r.visit facts.applicationPath c.state =
          if c.state.conditionsHold && (!r.flags.chain || c.state.previousFired) then
            r.attempt facts.applicationPath c.state
          else .ok ({ c.state with conditionsHold := true }, none))) ∧
    ∀ tokens, (RuleFlags.ofTokens tokens).skip = (tokens.filterMap FlagToken.skip?).getLast? ∧
      ∀ n ∈ (RuleFlags.ofTokens tokens).skip, n < Count.bound := by
  refine ⟨?_, fun condition => condition.visit_withSkip c.state, ?_, fun tokens =>
    ⟨RuleFlags.skip_ofTokens tokens, fun n hn => RuleFlags.lt_of_mem_skip_ofTokens hn⟩⟩
  · rintro before v later n after rfl hv hcount
    have hremains := hvisits.remains_of_skips hv hcount
    refine ⟨hremains.skip, hremains.previousFired.trans hv.previousFired_eq, hremains.conditions,
      fun hskipping => ?_, fun hlt => ⟨before, v, later, n, after, rfl, hv, hlt⟩⟩
    have hpos := hvisits.skip_pos_of_skipping hskipping
    have hleft := hremains.skip
    omega
  · intro r ahead hrest
    refine ⟨fun hskipping => ?_, fun hskipping => ?_⟩
    · have hpos := hvisits.skip_pos_of_skipping hskipping
      refine ⟨hpos, fun other => other.visit_of_skip_pos _ hpos, ?_⟩
      rw [step_of_rest hrest, Directive.visit, r.visit_of_skip_pos _ hpos]
    · have hzero : c.state.skip = 0 := by
        by_contra hne
        exact hskipping
          (hvisits.skipping_of_skip_pos rfl (by simp [hrest]) (Nat.pos_of_ne_zero hne))
      exact ⟨hzero, r.visit_of_skip_eq_zero _ hzero⟩

private def skippingRule : Rule := .onChar 1 'a' "/b" ["N", "S=2"]

/-- The first rule begins the pass anew and has two rules skipped. It is one of them itself, and the
other has a pattern that is not valid. -/
private def skippingRules : List Directive := [
  .rule skippingRule,
  .condition (.ofFields 2 [] ⟨['x'], ['=', 'y'], []⟩),
  .rule { Rule.onChar 3 'b' "/c" ["F"] with pattern := none },
  .rule (.onChar 4 'b' "/d" [])]

private def skippingRequest : Facts where
  url := "/a".toList
  now := ⟨2000, 1, 1, 0, 0, 0⟩

/-- Behind the skip it is the condition that holds the last rule back. -/
theorem skip_passes_over_rules_of_restart :
    ∃ visits c r, Reaches skippingRules skippingRequest visits c ∧ c.rest = [.rule r] ∧
      c.restarts = 1 ∧ ruleVisits visits = 3 ∧ ¬ Skipping [] visits ∧
      r.visit [] c.state = .ok ({ c.state with conditionsHold := true }, none) := by
  have hvisits : Reaches skippingRules skippingRequest _ _ :=
    .snoc (.snoc (.snoc (.snoc .nil rfl rfl) rfl rfl) rfl rfl) rfl rfl
  have hskips : Visit.Skips ⟨.rule skippingRule, .start skippingRequest⟩ [] 2 _ :=
    ⟨skippingRule, .restart, rfl, rfl, by decide, rfl⟩
  obtain ⟨hwindow, -, hrule, -⟩ := skip_passes_over_rules hvisits
  have hended : ¬ Skipping [] _ := fun hskipping =>
    absurd ((hwindow [] _ _ 2 _ rfl hskips (Nat.le_refl 2)).2.2.2.mp hskipping) (Nat.lt_irrefl 2)
  exact ⟨_, _, _, hvisits, rfl, rfl, rfl, hended, ((hrule _ _ rfl).2 hended).2⟩

end Pass

end Reroute
