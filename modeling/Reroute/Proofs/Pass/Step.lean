import Mathlib.Tactic.SplitIfs
import Reroute.Pass.Run

/-!
# What one visit does

A visit to a directive ends in a fault or leaves a new state, and a rule leaves it in one of five
ways. Everything that is proved of passes goes through the lists of cases here, so that a change
of what a visit does is a change of this file.
-/

namespace Reroute

open Pass

namespace Rule

variable {r : Rule} {path : Text} {groups : Groups} {state state' : State}

@[simp]
theorem apply_conditionsHold :
    (r.apply groups state).1.conditionsHold = state.conditionsHold := by
  unfold apply
  split_ifs <;> rfl

@[simp]
theorem apply_previousFired :
    (r.apply groups state).1.previousFired = state.previousFired := by
  unfold apply
  split_ifs <;> rfl

@[simp]
theorem apply_groups : (r.apply groups state).1.groups = state.groups := by
  unfold apply
  split_ifs <;> rfl

@[simp]
theorem apply_url : (r.apply groups state).1.url = state.url := by
  unfold apply
  split_ifs <;> rfl

theorem apply_action :
    (r.apply groups state).1.action =
      if r.flags.forbidden then .forbidden
      else if r.flags.gone then .gone
      else r.flags.action state.url := by
  unfold apply
  split_ifs <;> rfl

theorem apply_environment :
    (r.apply groups state).1.environment =
      if r.flags.forbidden || r.flags.gone then state.environment
      else r.flags.changes.foldl (VariableFlag.apply state.groups groups) state.environment := by
  unfold apply
  cases r.flags.forbidden <;> cases r.flags.gone <;> rfl

theorem apply_skip :
    (r.apply groups state).1.skip =
      if r.flags.forbidden || r.flags.gone then state.skip else r.flags.skip.getD state.skip := by
  unfold apply
  cases r.flags.forbidden <;> cases r.flags.gone <;> rfl

theorem apply_course :
    (r.apply groups state).2 =
      if r.flags.forbidden || r.flags.gone || r.flags.last then .stop
      else if r.flags.next then .restart else .next := by
  unfold apply RuleFlags.course
  cases r.flags.forbidden <;> cases r.flags.gone <;> rfl

/-- The ways in which a visit to a rule ends without a fault, and what each of them leaves. -/
inductive Visited (r : Rule) (path : Text) (state : State) : State → Option Course → Prop
  | skipped (hskip : 0 < state.skip) :
      Visited r path state { state with skip := state.skip - 1 } none
  | heldBack (hskip : state.skip = 0) (hhold : state.conditionsHold = false) :
      Visited r path state { state with conditionsHold := true } none
  | unchained (hskip : state.skip = 0) (hhold : state.conditionsHold = true)
      (hchain : r.flags.chain = true) (hprevious : state.previousFired = false) :
      Visited r path state state none
  | missed (htried : r.isTried state = true)
      (hmatch : r.match? (Url.pathBelow state.url path) = .ok none) :
      Visited r path state { state with previousFired := false } none
  | fired {groups : Groups} {url : Text} (htried : r.isTried state = true)
      (hmatch : r.match? (Url.pathBelow state.url path) = .ok (some groups))
      (hflags : r.flags.invalid = none)
      (hurl : r.newUrl (Url.pathBelow state.url path) groups state = .ok url) :
      Visited r path state (r.apply groups { state with url, previousFired := true }).1
        (some (r.apply groups { state with url, previousFired := true }).2)

/-- A rule fires on a path with these groups: those of its pattern if the path has it, and if the rule
is negated, as many that took no part if the path does not have it. -/
def FiresOn (r : Rule) (below : Text) (groups : Groups) : Prop :=
  ∃ pattern, r.pattern = some pattern ∧
    (r.negated = false ∧ pattern.groups? below = some groups ∨
      r.negated = true ∧ pattern.groups? below = none ∧ groups = .unmatched pattern.groupCount)

theorem match?_eq_some_iff {below : Text} :
    r.match? below = .ok (some groups) ↔ r.FiresOn below groups := by
  unfold match? FiresOn
  cases r.pattern with
  | none => simp
  | some pattern =>
      cases hfound : pattern.groups? below <;> cases r.negated <;> simp [hfound, eq_comm]

theorem match?_eq_error_iff {below : Text} {fault : Fault} :
    r.match? below = .error fault ↔ r.pattern = none ∧ fault = .invalidPattern := by
  unfold match?
  cases r.pattern with
  | none => simp [eq_comm]
  | some pattern => cases hfound : pattern.groups? below <;> simp [hfound]

theorem isTried_iff :
    r.isTried state = true ↔
      state.skip = 0 ∧ state.conditionsHold = true ∧
        (r.flags.chain = true → state.previousFired = true) := by
  unfold isTried
  cases r.flags.chain <;> simp [and_assoc]

theorem visit_of_isTried (htried : r.isTried state = true) :
    r.visit path state = r.attempt path state := if_pos htried

theorem visit_of_not_isTried (htried : r.isTried state = false) :
    r.visit path state = .ok (state.passOver, none) := by
  unfold visit
  rw [if_neg (by simp [htried])]

theorem attempt_eq :
    r.attempt path state =
      match r.match? (Url.pathBelow state.url path) with
      | .error fault => .error fault
      | .ok none => .ok ({ state with previousFired := false }, none)
      | .ok (some groups) =>
        (r.fire (Url.pathBelow state.url path) groups state).map fun (state, course) =>
          (state, some course) := by
  unfold attempt
  cases hmatch : r.match? (Url.pathBelow state.url path) with
  | error fault => simp [hmatch, bind, Except.bind]
  | ok matched =>
      cases matched with
      | none => simp [hmatch, bind, Except.bind, pure, Except.pure]
      | some groups =>
          cases hfire : r.fire (Url.pathBelow state.url path) groups state <;>
            simp [hmatch, hfire, bind, Except.bind, pure, Except.pure, Except.map]

theorem visited_passOver (htried : r.isTried state = false) :
    r.Visited path state state.passOver none := by
  unfold State.passOver
  split_ifs with hskip
  · exact .skipped hskip
  · -- The conditions are forgotten either way; the rule before it counts only if they hold.
    have hzero : state.skip = 0 := by omega
    cases hhold : state.conditionsHold with
    | false => exact .heldBack hzero hhold
    | true =>
        have hgate : ¬ (r.flags.chain = true → state.previousFired = true) := by
          intro hgate
          have := isTried_iff.mpr ⟨hzero, hhold, hgate⟩
          simp [htried] at this
        have hsame : ({ state with conditionsHold := true } : State) = state := by
          rw [← hhold]
        rw [hsame]
        simp only [Classical.not_imp, Bool.not_eq_true] at hgate
        exact .unchained hzero hhold hgate.1 hgate.2

theorem visited_of_visit {course : Option Course}
    (h : r.visit path state = .ok (state', course)) : r.Visited path state state' course := by
  cases htried : r.isTried state with
  | false =>
      rw [visit_of_not_isTried htried, Except.ok.injEq, Prod.mk.injEq] at h
      obtain ⟨rfl, rfl⟩ := h
      exact visited_passOver htried
  | true =>
      rw [visit_of_isTried htried] at h
      rw [attempt_eq] at h
      cases hmatch : r.match? (Url.pathBelow state.url path) with
      | error fault => simp [hmatch] at h
      | ok matched =>
          cases matched with
          | none =>
              simp only [hmatch, Except.ok.injEq, Prod.mk.injEq] at h
              obtain ⟨rfl, rfl⟩ := h
              exact .missed htried hmatch
          | some groups =>
              simp only [hmatch, fire] at h
              cases hflags : r.flags.invalid with
              | some token => simp [hflags, Except.map] at h
              | none =>
                  cases hurl : r.newUrl (Url.pathBelow state.url path) groups state with
                  | error fault => simp [hflags, hurl, Except.map] at h
                  | ok url =>
                      simp only [hflags, hurl, Except.map, Except.ok.injEq, Prod.mk.injEq] at h
                      obtain ⟨rfl, rfl⟩ := h
                      exact .fired htried hmatch hflags hurl

theorem course_of_visit {course : Course}
    (h : r.visit path state = .ok (state', some course)) :
    course =
      if r.flags.forbidden || r.flags.gone || r.flags.last then .stop
      else if r.flags.next then .restart else .next := by
  cases visited_of_visit h with
  | fired _ _ _ _ => exact apply_course

theorem conditionsHold_of_visit {course : Option Course}
    (h : r.visit path state = .ok (state', course)) :
    state'.conditionsHold = if state.skip = 0 then true else state.conditionsHold := by
  cases visited_of_visit h with
  | skipped hskip => simp [Nat.ne_of_gt hskip]
  | heldBack hskip _ => simp [hskip]
  | unchained hskip hhold _ _ => simp [hskip, hhold]
  | missed htried _ => simp [isTried_iff.mp htried]
  | fired htried _ _ _ => simp [isTried_iff.mp htried]

theorem groups_of_visit {course : Option Course}
    (h : r.visit path state = .ok (state', course)) : state'.groups = state.groups := by
  cases visited_of_visit h with
  | skipped _ | heldBack _ _ | unchained _ _ _ _ | missed _ _ => rfl
  | fired _ _ _ _ => simp

/-- A rule that is tried in vain shuts out the rules that depend on it, and does nothing else. -/
theorem missed_of_visit (htried : r.isTried state = true)
    (h : r.visit path state = .ok (state', none)) : state' = { state with previousFired := false } := by
  have hheld := isTried_iff.mp htried
  cases visited_of_visit h with
  | skipped hskip => exact absurd hheld.1 (Nat.ne_of_gt hskip)
  | heldBack _ hhold => simp [hhold] at hheld
  | unchained _ _ hchain hprevious => simp [hchain, hprevious] at hheld
  | missed _ _ => rfl

theorem previousFired_of_visit {course : Course}
    (h : r.visit path state = .ok (state', some course)) : state'.previousFired = true := by
  cases visited_of_visit h with
  | fired _ _ _ _ => simp

theorem skip_eq_zero_of_visit {course : Course}
    (h : r.visit path state = .ok (state', some course)) : state.skip = 0 := by
  cases visited_of_visit h with
  | fired htried _ _ _ => exact (isTried_iff.mp htried).1

theorem skip_of_visit_none (h : r.visit path state = .ok (state', none)) :
    state'.skip = state.skip - 1 := by
  cases visited_of_visit h with
  | skipped _ => rfl
  | heldBack hskip _ => simp [hskip]
  | unchained hskip _ _ _ => simp [hskip]
  | missed htried _ => simp [(isTried_iff.mp htried).1]

/-- A rule that fires leaves the skip that it asks for, unless the pass is over. -/
theorem skip_of_visit {course : Course} (h : r.visit path state = .ok (state', some course))
    (hcourse : course ≠ .stop) : state'.skip = r.flags.skip.getD 0 := by
  have hskip := skip_eq_zero_of_visit h
  have hstops := course_of_visit h
  cases visited_of_visit h with
  | fired _ _ _ _ =>
      rw [apply_skip, hskip]
      cases hrefuses : r.flags.forbidden || r.flags.gone with
      | false => simp
      | true => simp [hrefuses, hcourse] at hstops

end Rule

namespace Condition

variable {c : Condition} {state state' : State}

inductive Visited (c : Condition) (state : State) : State → Prop
  | evaluated {verdict : Verdict} (hevaluated : c.isEvaluated state = true)
      (hverdict : c.verdict state = .ok verdict) :
      Visited c state { state with
        groups := verdict.groups
        conditionsHold := c.join state.conditionsHold verdict.matched }
  | passedOver (hevaluated : c.isEvaluated state = false) : Visited c state state

theorem visit_of_not_isEvaluated (hevaluated : c.isEvaluated state = false) :
    c.visit state = .ok state := by
  unfold visit
  rw [if_neg (by simp [hevaluated])]

theorem visited_of_visit (h : c.visit state = .ok state') : c.Visited state state' := by
  cases hevaluated : c.isEvaluated state with
  | false =>
      rw [visit_of_not_isEvaluated hevaluated, Except.ok.injEq] at h
      subst h
      exact .passedOver hevaluated
  | true =>
      unfold visit at h
      rw [if_pos hevaluated] at h
      cases hverdict : c.verdict state with
      | error fault => simp [hverdict, Except.map] at h
      | ok verdict =>
          simp only [hverdict, Except.map, Except.ok.injEq] at h
          subst h
          exact .evaluated hevaluated hverdict

end Condition

theorem Directive.visit_condition {c : Condition} {path : Text} {state state' : State}
    {course : Option Course} (h : (Directive.condition c).visit path state = .ok (state', course)) :
    c.visit state = .ok state' := by
  cases hvisit : c.visit state with
  | error fault => simp [Directive.visit, hvisit, Except.map] at h
  | ok state'' =>
      simp only [Directive.visit, hvisit, Except.map, Except.ok.injEq, Prod.mk.injEq] at h
      rw [h.1]

namespace Pass

variable {directives : List Directive} {path : Text} {c c' : Config}

/-- The ways in which a pass goes on by one visit. -/
inductive Stepped (directives : List Directive) (path : Text) (c : Config) : Config → Prop
  | condition {condition : Condition} {ahead : List Directive} {state : State}
      (hrest : c.rest = .condition condition :: ahead)
      (hvisit : condition.visit c.state = .ok state) :
      Stepped directives path c (c.pass ahead state)
  | passed {rule : Rule} {ahead : List Directive} {state : State}
      (hrest : c.rest = .rule rule :: ahead)
      (hvisit : rule.visit path c.state = .ok (state, none)) :
      Stepped directives path c (c.pass ahead state)
  | fired {rule : Rule} {ahead : List Directive} {state : State} {course : Course}
      (hrest : c.rest = .rule rule :: ahead)
      (hvisit : rule.visit path c.state = .ok (state, some course)) :
      Stepped directives path c (c.fire directives ahead rule.line state course)

theorem step_eq_none_iff : step directives path c = none ↔ c.rest = [] := by
  unfold step
  cases c.rest with
  | nil => simp
  | cons d ahead =>
      simp only [reduceCtorEq, iff_false]
      split <;> simp

theorem exists_rest_of_step {result : Except Evaluation Config}
    (h : step directives path c = some result) : ∃ d ahead, c.rest = d :: ahead := by
  refine List.exists_cons_of_ne_nil fun hrest => ?_
  rw [step_eq_none_iff.mpr hrest] at h
  cases h

theorem step_of_rest {d : Directive} {ahead : List Directive} (hrest : c.rest = d :: ahead) :
    step directives path c = some (
      match d.visit path c.state with
      | .error fault => .error { fault, line := d.line, text := d.text, url := c.state.url }
      | .ok (state, none) => .ok (c.pass ahead state)
      | .ok (state, some course) => .ok (c.fire directives ahead d.line state course)) := by
  rw [step, hrest]
  dsimp only
  cases d.visit path c.state with
  | error fault => rfl
  | ok result =>
      obtain ⟨state, course⟩ := result
      cases course <;> rfl

theorem stepped_of_step (h : step directives path c = some (.ok c')) :
    Stepped directives path c c' := by
  unfold step at h
  cases hrest : c.rest with
  | nil => simp [hrest] at h
  | cons d ahead =>
      cases d with
      | condition condition =>
          cases hvisit : condition.visit c.state with
          | error fault => simp [hrest, Directive.visit, hvisit, Except.map] at h
          | ok state =>
              simp only [hrest, Directive.visit, hvisit, Except.map, Option.some.injEq,
                Except.ok.injEq] at h
              subst h
              exact .condition hrest hvisit
      | rule rule =>
          cases hvisit : rule.visit path c.state with
          | error fault => simp [hrest, Directive.visit, hvisit] at h
          | ok result =>
              obtain ⟨state, course⟩ := result
              cases course with
              | none =>
                  simp only [hrest, Directive.visit, hvisit, Option.some.injEq,
                    Except.ok.injEq] at h
                  subst h
                  exact .passed hrest hvisit
              | some course =>
                  simp only [hrest, Directive.visit, hvisit, Option.some.injEq,
                    Except.ok.injEq] at h
                  subst h
                  exact .fired hrest hvisit

theorem step_cases {d : Directive} {ahead : List Directive} (hrest : c.rest = d :: ahead)
    (h : step directives path c = some (.ok c')) :
    (∃ state, d.visit path c.state = .ok (state, none) ∧ c' = c.pass ahead state) ∨
      ∃ rule state course, d = .rule rule ∧
        rule.visit path c.state = .ok (state, some course) ∧
          c' = c.fire directives ahead rule.line state course := by
  cases stepped_of_step h with
  | condition hrest' hvisit =>
      rw [hrest, List.cons.injEq] at hrest'
      obtain ⟨rfl, rfl⟩ := hrest'
      exact .inl ⟨_, by rw [Directive.visit, hvisit]; rfl, rfl⟩
  | passed hrest' hvisit =>
      rw [hrest, List.cons.injEq] at hrest'
      obtain ⟨rfl, rfl⟩ := hrest'
      exact .inl ⟨_, hvisit, rfl⟩
  | fired hrest' hvisit =>
      rw [hrest, List.cons.injEq] at hrest'
      obtain ⟨rfl, rfl⟩ := hrest'
      exact .inr ⟨_, _, _, rfl, hvisit, rfl⟩

theorem visit_of_step {d : Directive} {ahead : List Directive} (hrest : c.rest = d :: ahead)
    (h : step directives path c = some (.ok c')) :
    ∃ course, d.visit path c.state = .ok (c'.state, course) := by
  obtain ⟨state, hvisit, rfl⟩ | ⟨rule, state, course, rfl, hvisit, rfl⟩ := step_cases hrest h
  · exact ⟨none, hvisit⟩
  · exact ⟨some course, hvisit⟩

end Pass

end Reroute
