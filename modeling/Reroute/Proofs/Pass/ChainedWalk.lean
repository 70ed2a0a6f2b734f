import Reroute.Proofs.Pass.Chained
import Reroute.Proofs.Pass.Skips

/-!
# The rules before a rule that depends on them

A walk visits the directives one after the other, so that a rule which depends on the one before it
finds that one just visited in its own walk. This does not mean that it fired: a rule that its
conditions hold back is not tried, and the pass remembers the last rule that was. So what counts is
the last rule of the walk that its conditions let through. A rule that depends on another goes the way
of that one, and it may fire directly behind a rule that was held back.
-/

namespace Reroute.Pass

def Visit.isLetThrough (v : Visit) : Bool := v.isRule && v.state.conditionsHold

def Visit.restarts (v : Visit) (path : Text) : Bool :=
  match v.directive with
  | .condition _ => false
  | .rule r =>
    match r.visit path v.state with
    | .ok (_, some course) => course == .restart
    | _ => false

/-- The visits since the pass began or was last begun anew. -/
def walk (path : Text) (visits : List Visit) : List Visit :=
  visits.rtakeWhile fun v => !v.restarts path

/-- The last rule among the visits that its conditions let through fired, or there was none. -/
def LetThroughFired (path : Text) (visits : List Visit) : Prop :=
  ∀ v, (visits.filter Visit.isLetThrough).getLast? = some v → ∃ r, v.Fires path r

variable {directives : List Directive} {facts : Facts} {path : Text} {c c' : Config}
  {visits before later : List Visit} {v : Visit} {state state' : State} {d : Directive}

/-! ### One visit -/

theorem Visit.restarts_of_visit_none (hvisit : d.visit path state = .ok (state', none)) :
    Visit.restarts ⟨d, state⟩ path = false := by
  cases d with
  | condition condition => rfl
  | rule r =>
      rw [Directive.visit] at hvisit
      simp [restarts, hvisit]

theorem Visit.restarts_of_visit {r : Rule} {course : Course}
    (hvisit : r.visit path state = .ok (state', some course)) :
    Visit.restarts ⟨.rule r, state⟩ path = (course == .restart) := by
  simp [restarts, hvisit]

theorem Visit.exists_fires_of_restarts (hrestarts : v.restarts path = true) :
    ∃ r, v.Fires path r := by
  obtain ⟨d, state⟩ := v
  cases d with
  | condition condition => cases hrestarts
  | rule r =>
      cases hvisit : r.visit path state with
      | error fault => simp [restarts, hvisit] at hrestarts
      | ok result =>
          obtain ⟨state', course | course⟩ := result
          · simp [restarts, hvisit] at hrestarts
          · exact ⟨r, rfl, state', course, hvisit⟩

theorem Visit.Fires.isLetThrough {r : Rule} (h : v.Fires path r) : v.isLetThrough = true := by
  have htries := h.tries
  rw [Visit.tries, h.1] at htries
  simp [Visit.isLetThrough, Visit.isRule, h.1, (Rule.isTried_iff.mp htries).2.1]

theorem walk_concat (v : Visit) :
    walk path (visits ++ [v]) = if v.restarts path then [] else walk path visits ++ [v] := by
  unfold walk
  rw [List.rtakeWhile_concat]
  cases v.restarts path <;> rfl

theorem letThroughFired_nil : LetThroughFired path [] := by simp [LetThroughFired]

theorem letThroughFired_concat (v : Visit) :
    LetThroughFired path (visits ++ [v]) ↔
      if v.isLetThrough then ∃ r, v.Fires path r else LetThroughFired path visits :=
  forall_getLast?_filter_concat Visit.isLetThrough _ v

/-- Without a skip the pass remembers whether the last rule fired that its conditions let through:
such a rule is tried, or it is shut out because the one before it did not fire. -/
theorem previousFired_iff_of_letThrough {course : Option Course} (hskip : state.skip = 0)
    (hvisit : d.visit path state = .ok (state', course)) :
    state'.previousFired = true ↔
      if Visit.isLetThrough ⟨d, state⟩ then ∃ r, Visit.Fires ⟨d, state⟩ path r
      else state.previousFired = true := by
  rw [previousFired_iff_of_visit hvisit]
  cases d with
  | condition condition => rfl
  | rule r =>
      change (if r.isTried state then _ else _) ↔ if true && state.conditionsHold then _ else _
      by_cases htried : r.isTried state = true
      · rw [if_pos htried, (Rule.isTried_iff.mp htried).2.1]
        rfl
      · rw [if_neg htried]
        by_cases hhold : state.conditionsHold = true
        · rw [hhold]
          refine iff_of_false (fun hprevious => htried ?_) ?_
          · exact Rule.isTried_iff.mpr ⟨hskip, hhold, fun _ => hprevious⟩
          · rintro ⟨r', hfires⟩
            obtain rfl := Directive.rule.inj hfires.1
            exact htried hfires.tries
        · rw [Bool.not_eq_true] at hhold
          rw [hhold]
          rfl

/-! ### Whole histories -/

theorem History.walk_append_rest (hvisits : History directives path c visits c')
    (hstart : c.rest = directives) (hrest : c'.rest ≠ []) :
    (walk path visits).map Visit.directive ++ c'.rest = directives := by
  induction hvisits with
  | nil => exact hstart
  | @snoc visits d ahead c' c'' _ hahead hstep ih =>
      have hbefore := ih (by simp [hahead])
      rw [hahead] at hbefore
      rw [walk_concat]
      obtain ⟨state, hvisit, rfl⟩ | ⟨r, state, course, rfl, hvisit, rfl⟩ := step_cases hahead hstep
      · rw [Visit.restarts_of_visit_none hvisit]
        simpa [Config.pass] using hbefore
      · rw [Visit.restarts_of_visit hvisit]
        cases course with
        | next => simpa [Config.fire] using hbefore
        | restart => rfl
        | stop => exact absurd rfl hrest

theorem History.skip_eq_zero (hvisits : Reaches directives facts visits c)
    (hskips : ∀ r, .rule r ∈ directives → r.flags.skip = none) (hrest : c.rest ≠ []) :
    c.state.skip = 0 := by
  by_contra hne
  obtain ⟨before, v, later, n, after, rfl, ⟨r, course, hrule, -, -, hskip⟩, -⟩ :=
    hvisits.skipping_of_skip_pos rfl hrest (Nat.pos_of_ne_zero hne)
  have hmem := hvisits.directive_mem (List.suffix_refl _) v (by simp)
  rw [hrule] at hmem
  rw [hskips r hmem] at hskip
  cases hskip

theorem History.previousFired_iff_letThroughFired (hvisits : Reaches directives facts visits c)
    (hskips : ∀ r, .rule r ∈ directives → r.flags.skip = none) :
    c.state.previousFired = true ↔ LetThroughFired facts.applicationPath visits := by
  induction hvisits with
  | nil => exact iff_of_true rfl letThroughFired_nil
  | @snoc visits d ahead c' c'' hvisits hahead hstep ih =>
      obtain ⟨course, hvisit⟩ := visit_of_step hahead hstep
      have hskip := hvisits.skip_eq_zero hskips (by simp [hahead])
      rw [previousFired_iff_of_letThrough hskip hvisit, letThroughFired_concat, ih]

/-- The walks before do not count: the last of them ended with a rule that fired. -/
theorem letThroughFired_walk (path : Text) (visits : List Visit) :
    LetThroughFired path (walk path visits) ↔ LetThroughFired path visits := by
  induction visits using List.reverseRecOn with
  | nil => rfl
  | append_singleton visits v ih =>
      rw [walk_concat, letThroughFired_concat]
      by_cases hrestarts : v.restarts path = true
      · rw [if_pos hrestarts]
        obtain ⟨r, hfires⟩ := Visit.exists_fires_of_restarts hrestarts
        rw [hfires.isLetThrough]
        exact iff_of_true letThroughFired_nil ⟨r, hfires⟩
      · rw [if_neg hrestarts, letThroughFired_concat, ih]

/-- **A rule that depends on the one before it goes the way of the last rule of its walk that was let
through.** Without skips the walk has visited all directives before the rule, and the rule is tried if
its conditions hold and, of the rules before it in the walk, the last one that its own conditions let
through fired. Rules that their conditions hold back do not count, and if all of them were held back,
the rule is tried as well. So when it fires, the rule directly before it fired in the same walk or was
held back by its conditions. -/
theorem chained_rule_follows_let_through (hvisits : Reaches directives facts visits c)
    (hskips : ∀ r, .rule r ∈ directives → r.flags.skip = none) {r : Rule}
    {ahead : List Directive} (hrest : c.rest = .rule r :: ahead) (hchain : r.flags.chain = true) :
    (walk facts.applicationPath visits).map Visit.directive ++ .rule r :: ahead = directives ∧
    (r.isTried c.state = true ↔ c.state.conditionsHold = true ∧
      LetThroughFired facts.applicationPath (walk facts.applicationPath visits)) ∧
    (Visit.Fires ⟨.rule r, c.state⟩ facts.applicationPath r →
      ∀ v, ((walk facts.applicationPath visits).filter Visit.isRule).getLast? = some v →
        ((∃ r', v.Fires facts.applicationPath r') ↔ v.state.conditionsHold = true)) := by
  have hnonempty : c.rest ≠ [] := by simp [hrest]
  have hwalk := hvisits.walk_append_rest rfl hnonempty
  have htried : r.isTried c.state = true ↔ c.state.conditionsHold = true ∧
      LetThroughFired facts.applicationPath (walk facts.applicationPath visits) := by
    rw [letThroughFired_walk, ← hvisits.previousFired_iff_letThroughFired hskips, Rule.isTried_iff]
    simp [hvisits.skip_eq_zero hskips hnonempty, hchain]
  refine ⟨hrest ▸ hwalk, htried, fun hfires v hv => ?_⟩
  constructor
  · rintro ⟨r', hbefore⟩
    have hthrough := hbefore.isLetThrough
    rw [Visit.isLetThrough, Bool.and_eq_true] at hthrough
    exact hthrough.2
  · intro hhold
    -- The last rule of the walk is then the last one that was let through.
    obtain ⟨rules, hrules⟩ := List.getLast?_eq_some_iff.mp hv
    refine (htried.mp hfires.tries).2 v ?_
    have hfilter : (walk facts.applicationPath visits).filter Visit.isLetThrough =
        (rules ++ [v]).filter fun v => v.state.conditionsHold := by
      rw [← hrules, List.filter_filter]
      exact List.filter_congr fun w _ => Bool.and_comm _ _
    rw [hfilter, List.filter_append]
    simp [hhold]

private def walkedRequest : Facts where
  url := "/a".toList
  now := ⟨2000, 1, 1, 0, 0, 0⟩

private def restartedRules : List Directive := [
  .condition (.ofFields 1 [] ⟨['x'], ['=', 'y'], []⟩),
  .rule (.onChar 2 'b' "/x" []),
  .rule (.onChar 3 'b' "/c" ["C"]),
  .rule (.onChar 4 'a' "/b" ["N"])]

/-- In the second walk the rule before is held back, so that the rule goes the way of the one that has
begun the walk. -/
theorem chained_rule_follows_let_through_of_restart :
    ∃ visits c r, Reaches restartedRules walkedRequest visits c ∧ c.restarts = 1 ∧
      (walk [] visits).length = 2 ∧ r.flags.chain = true ∧ c.rest.head? = some (.rule r) ∧
      r.isTried c.state = true := by
  have hvisits : Reaches restartedRules walkedRequest _ _ :=
    .snoc (.snoc (.snoc (.snoc (.snoc (.snoc .nil rfl rfl) rfl rfl) rfl rfl) rfl rfl) rfl rfl)
      rfl rfl
  have hskips : ∀ r, .rule r ∈ restartedRules → r.flags.skip = none := by
    simp only [restartedRules, List.mem_cons, reduceCtorEq, Directive.rule.injEq, false_or,
      List.not_mem_nil, or_false]
    rintro r (rfl | rfl | rfl) <;> rfl
  obtain ⟨-, htried, -⟩ := chained_rule_follows_let_through hvisits hskips rfl rfl
  refine ⟨_, _, _, hvisits, rfl, rfl, rfl, rfl, htried.mpr ⟨rfl, fun v hv => ?_⟩⟩
  cases hv

private def heldBackRules : List Directive := [
  .condition (.ofFields 1 [] ⟨['x'], ['=', 'y'], []⟩),
  .rule (.onChar 2 'a' "/b" ["C"]),
  .rule (.onChar 3 'a' "/c" ["C"])]

/-- A rule fires that depends on the rule directly before it, although that one was held back. -/
theorem chained_rule_fires_behind_held_back :
    ¬ ∀ (directives : List Directive) (facts : Facts) (visits : List Visit) (c : Config) (r : Rule)
      (ahead : List Directive), Reaches directives facts visits c →
      (∀ r, .rule r ∈ directives → r.flags.skip = none) → c.rest = .rule r :: ahead →
      r.flags.chain = true → Visit.Fires ⟨.rule r, c.state⟩ facts.applicationPath r →
      ∀ v, ((walk facts.applicationPath visits).filter Visit.isRule).getLast? = some v →
        ∃ r', v.Fires facts.applicationPath r' := by
  intro hbefore
  have hvisits : Reaches heldBackRules walkedRequest _ _ :=
    .snoc (.snoc .nil rfl rfl) rfl rfl
  have hskips : ∀ r, .rule r ∈ heldBackRules → r.flags.skip = none := by
    simp only [heldBackRules, List.mem_cons, reduceCtorEq, Directive.rule.injEq, false_or,
      List.not_mem_nil, or_false]
    rintro r (rfl | rfl) <;> rfl
  obtain ⟨r', hfires⟩ := hbefore heldBackRules walkedRequest _ _ _ _ hvisits hskips rfl rfl
    ⟨rfl, _, _, rfl⟩ _ rfl
  have htries := hfires.tries
  cases htries

end Reroute.Pass
