import Mathlib.Data.List.DropRight
import Reroute.Proofs.Pass.History

/-!
# Which conditions guard a rule

A pass keeps one truth value for the conditions before a rule, and joins every condition to it by
"and" or by "or". What comes of it can be read off the list of conditions: some condition joined by
"or" holds, or none is needed, and behind it all others hold.
-/

namespace Reroute.Pass

structure Guard where
  condition : Condition
  state : State

namespace Guard

def orNext (g : Guard) : Bool := g.condition.flags.orNext

def isEvaluated (g : Guard) : Bool := g.condition.isEvaluated g.state

def verdict (g : Guard) : Except Fault Verdict := g.condition.verdict g.state

end Guard

namespace Visit

def reachesRule (v : Visit) : Bool :=
  match v.directive with
  | .condition _ => false
  | .rule _ => v.state.skip == 0

def guard? (v : Visit) : Option Guard :=
  match v.directive with
  | .condition condition => some { condition, state := v.state }
  | .rule _ => none

end Visit

/-- The conditions that have been visited since a rule was reached. A pass that begins anew has
reached the rule that made it do so. -/
def guards (visits : List Visit) : List Guard :=
  (visits.rtakeWhile fun v => !v.reachesRule).filterMap Visit.guard?

def evaluated (visits : List Visit) : List Guard :=
  (visits.filterMap Visit.guard?).filter Guard.isEvaluated

/-- Conditions with these results let a rule through: behind one that is joined by "or" and holds,
or from the first one on, all that are joined by "and" hold. -/
def LetThrough (holds : Guard → Bool) (gs : List Guard) : Prop :=
  ∃ j ≤ gs.length,
    (j = 0 ∨ ∃ g, gs[j - 1]? = some g ∧ g.orNext = true ∧ holds g = true) ∧
    ∀ g ∈ gs.drop j, g.orNext = false → holds g = true

/-! ### Lists of conditions

A list of conditions grows at its end, as the pass visits one more. Whether it lets a rule through
then follows from whether it did before, which is how the pass keeps the one truth value. -/

variable {holds : Guard → Bool} {gs : List Guard} {visits : List Visit}

theorem letThrough_nil : LetThrough holds [] := ⟨0, Nat.le_refl 0, .inl rfl, by simp⟩

theorem LetThrough.concat {g : Guard} (hlet : LetThrough holds gs)
    (hg : g.orNext = false → holds g = true) : LetThrough holds (gs ++ [g]) := by
  obtain ⟨j, hj, hbegin, hall⟩ := hlet
  refine ⟨j, by rw [List.length_append]; omega, ?_, ?_⟩
  · rcases hbegin with hzero | ⟨g', hg', hrest⟩
    · exact .inl hzero
    · have hlt := (List.getElem?_eq_some_iff.mp hg').1
      exact .inr ⟨g', by rw [List.getElem?_append_left hlt, hg'], hrest⟩
  · intro g' hg'
    rw [List.drop_append_of_le_length hj, List.mem_append, List.mem_singleton] at hg'
    rcases hg' with hold | rfl
    · exact hall g' hold
    · exact hg

theorem letThrough_concat_of_orNext {g : Guard} (hor : g.orNext = true) (hholds : holds g = true) :
    LetThrough holds (gs ++ [g]) :=
  ⟨gs.length + 1, by simp, .inr ⟨g, by simp, hor, hholds⟩, by simp⟩

theorem LetThrough.of_concat {g : Guard} (hlet : LetThrough holds (gs ++ [g]))
    (hg : ¬ (g.orNext = true ∧ holds g = true)) :
    LetThrough holds gs ∧ (g.orNext = false → holds g = true) := by
  obtain ⟨j, hj, hbegin, hall⟩ := hlet
  rw [List.length_append, List.length_singleton] at hj
  -- Otherwise the list begins anew with the last condition, which `hg` rules out.
  have hle : j ≤ gs.length := by
    by_contra hgt
    obtain rfl : j = gs.length + 1 := by omega
    obtain ⟨g', hg', hend⟩ := hbegin.resolve_left (by omega)
    have hsame : g = g' := by simpa using hg'
    exact hg (hsame ▸ hend)
  rw [List.drop_append_of_le_length hle] at hall
  constructor
  · refine ⟨j, hle, ?_, fun g' hg' => hall g' (List.mem_append_left _ hg')⟩
    by_cases hzero : j = 0
    · exact .inl hzero
    · rwa [List.getElem?_append_left (by omega)] at hbegin
  · exact hall g (List.mem_append_right _ (List.mem_singleton_self g))

theorem letThrough_concat (g : Guard) :
    LetThrough holds (gs ++ [g]) ↔
      if g.orNext then LetThrough holds gs ∨ holds g = true
      else LetThrough holds gs ∧ holds g = true := by
  cases hor : g.orNext with
  | true =>
      constructor
      · intro hlet
        by_cases hholds : holds g = true
        · exact .inr hholds
        · exact .inl (hlet.of_concat fun h => hholds h.2).1
      · rintro (hlet | hholds)
        · exact hlet.concat (by simp [hor])
        · exact letThrough_concat_of_orNext hor hholds
  | false =>
      constructor
      · intro hlet
        have hbefore := hlet.of_concat (by simp [hor])
        exact ⟨hbefore.1, hbefore.2 hor⟩
      · rintro ⟨hlet, hholds⟩
        exact hlet.concat fun _ => hholds

/-! ### One more visit -/

theorem guards_concat (v : Visit) :
    guards (visits ++ [v]) = if v.reachesRule then [] else guards visits ++ v.guard?.toList := by
  unfold guards
  rw [List.rtakeWhile_concat]
  cases v.reachesRule with
  | true => rfl
  | false =>
      cases hguard : v.guard? <;> simp [hguard]

theorem guards_concat_condition (condition : Condition) (state : State) :
    guards (visits ++ [⟨.condition condition, state⟩]) = guards visits ++ [⟨condition, state⟩] :=
  guards_concat _

theorem evaluated_concat_rule (r : Rule) (state : State) :
    evaluated (visits ++ [⟨.rule r, state⟩]) = evaluated visits := by
  simp [evaluated, Visit.guard?]

theorem evaluated_concat_condition (condition : Condition) (state : State) :
    evaluated (visits ++ [⟨.condition condition, state⟩]) =
      evaluated visits ++ if condition.isEvaluated state then [⟨condition, state⟩] else [] := by
  cases hevaluated : condition.isEvaluated state <;>
    simp [evaluated, Visit.guard?, Guard.isEvaluated, hevaluated]

/-- What the tests of conditions said, as far as they were put. -/
def Tells (holds : Guard → Bool) (gs : List Guard) : Prop :=
  ∀ g ∈ gs, g.isEvaluated = true → ∀ verdict, g.verdict = .ok verdict → holds g = verdict.matched

theorem conditionsHold_of_condition {condition : Condition} {state state' : State}
    (hvisit : condition.visit state = .ok state')
    (hholds : Tells holds [⟨condition, state⟩])
    (hbefore : state.conditionsHold = true ↔ LetThrough holds gs) :
    state'.conditionsHold = true ↔ LetThrough holds (gs ++ [⟨condition, state⟩]) := by
  rw [letThrough_concat, ← hbefore]
  cases Condition.visited_of_visit hvisit with
  | @evaluated verdict hevaluated hverdict =>
      rw [hholds _ (List.mem_singleton_self _) hevaluated verdict hverdict]
      unfold Guard.orNext Condition.join
      split_ifs <;> simp
  | passedOver hevaluated =>
      unfold Condition.isEvaluated at hevaluated
      rw [Bool.or_eq_false_iff] at hevaluated
      simp [Guard.orNext, hevaluated.1, hevaluated.2]

theorem Tells.left {gs' : List Guard} (h : Tells holds (gs ++ gs')) : Tells holds gs :=
  fun g hg => h g (List.mem_append_left _ hg)

theorem Tells.right {gs' : List Guard} (h : Tells holds (gs ++ gs')) : Tells holds gs' :=
  fun g hg => h g (List.mem_append_right _ hg)

/-! ### Whole histories -/

namespace History

variable {directives : List Directive} {path : Text} {c c' : Config}

theorem conditionsHold_iff (hvisits : History directives path c visits c')
    (hstart : c.state.conditionsHold = true) (hholds : Tells holds (guards visits)) :
    c'.state.conditionsHold = true ↔ LetThrough holds (guards visits) := by
  revert hholds
  refine hvisits.invariant
    (P := fun visits state => Tells holds (guards visits) →
      (state.conditionsHold = true ↔ LetThrough holds (guards visits))) ?_ ?_
  · intro _
    exact iff_of_true hstart letThrough_nil
  · -- A rule empties the list or lets it be; a condition is the only thing that adds to it.
    intro visits d state state' course ih hvisit
    cases d with
    | rule r =>
        rw [guards_concat, Rule.conditionsHold_of_visit hvisit]
        by_cases hskip : state.skip = 0
        · simp [Visit.reachesRule, hskip, letThrough_nil]
        · simpa [Visit.reachesRule, Visit.guard?, hskip] using ih
    | condition condition =>
        rw [guards_concat_condition]
        intro hholds
        exact conditionsHold_of_condition (Directive.visit_condition hvisit) hholds.right
          (ih hholds.left)

theorem isEvaluated_iff (hvisits : History directives path c visits c')
    (hstart : c.state.conditionsHold = true) (hholds : Tells holds (guards visits)) {i : Nat}
    {g : Guard} (hg : (guards visits)[i]? = some g) :
    g.isEvaluated = true ↔ g.orNext = true ∨ LetThrough holds ((guards visits).take i) := by
  induction hvisits with
  | nil => simp [guards] at hg
  | @snoc visits d ahead c' c'' hvisits' _ _ ih =>
      cases d with
      | rule r =>
          rw [guards_concat] at hholds hg ⊢
          by_cases hskip : c'.state.skip = 0
          · simp [Visit.reachesRule, hskip] at hg
          · simp only [Visit.reachesRule, Visit.guard?, hskip, beq_iff_eq, ↓reduceIte,
              Option.toList_none, List.append_nil] at hholds hg ⊢
            exact ih hholds hg
      | condition condition =>
          rw [guards_concat_condition] at hholds hg ⊢
          by_cases hlast : i < (guards visits).length
          · rw [List.getElem?_append_left hlast] at hg
            rw [List.take_append_of_le_length (Nat.le_of_lt hlast)]
            exact ih hholds.left hg
          · have hi := (List.getElem?_eq_some_iff.mp hg).1
            rw [List.length_append, List.length_singleton] at hi
            obtain rfl : i = (guards visits).length := by omega
            obtain rfl : ⟨condition, c'.state⟩ = g := by simpa using hg
            rw [List.take_left, ← hvisits'.conditionsHold_iff hstart hholds.left]
            simp [Guard.isEvaluated, Condition.isEvaluated, Guard.orNext]

theorem groups_eq (hvisits : History directives path c visits c')
    (hstart : c.state.groups = none) :
    (evaluated visits = [] → c'.state.groups = none) ∧
      ∀ g, (evaluated visits).getLast? = some g →
        ∃ verdict, g.verdict = .ok verdict ∧ c'.state.groups = verdict.groups := by
  refine hvisits.invariant
    (P := fun visits state => (evaluated visits = [] → state.groups = none) ∧
      ∀ g, (evaluated visits).getLast? = some g →
        ∃ verdict, g.verdict = .ok verdict ∧ state.groups = verdict.groups) ?_ ?_
  · exact ⟨fun _ => hstart, by simp [evaluated]⟩
  · intro visits d state state' course ih hvisit
    cases d with
    | rule r =>
        rw [evaluated_concat_rule, Rule.groups_of_visit hvisit]
        exact ih
    | condition condition =>
        rw [evaluated_concat_condition]
        cases Condition.visited_of_visit (Directive.visit_condition hvisit) with
        | @evaluated verdict hevaluated hverdict =>
            rw [if_pos hevaluated]
            refine ⟨by simp, fun g hg => ?_⟩
            obtain rfl : ⟨condition, state⟩ = g := by simpa using hg
            exact ⟨verdict, hverdict, rfl⟩
        | passedOver hevaluated =>
            rw [hevaluated]
            simpa using ih

end History

theorem Guard.groups_eq_none_iff {g : Guard} {verdict : Verdict} (h : g.verdict = .ok verdict) :
    verdict.groups = none ↔
      ∀ criterion, g.condition.criterion = some criterion →
        ∀ p, criterion.comparand ≠ .pattern p := by
  unfold Guard.verdict Condition.verdict at h
  cases hvalue : g.state.environment.expand g.state.url g.condition.subject with
  | error fault => simp [hvalue, bind, Except.bind] at h
  | ok value =>
      cases hcriterion : g.condition.criterion with
      | none => simp [hvalue, hcriterion, bind, Except.bind, throw, throwThe,
          MonadExceptOf.throw] at h
      | some criterion =>
          simp only [hvalue, hcriterion, bind, Except.bind, pure, Except.pure,
            Except.ok.injEq] at h
          subst h
          cases hcomparand : criterion.comparand with
          | equal text | less text | greater text =>
              simp [Criterion.judge, Comparand.judge, hcomparand]
          | pattern p =>
              simp only [Criterion.judge, Comparand.judge, hcomparand]
              cases p.groups? value <;> simp [hcomparand]

/-- **The conditions before a rule guard it.** A pass has come to a rule that no skip passes over.
The conditions visited since it last came to such a rule let the rule through, or the visit does
nothing but forget them. `holds` is what their tests said; a test that was not put may be taken to
have said anything. A test is put if its condition is joined by "or" or if the conditions before it
let a rule through; otherwise the condition does nothing, whatever its test. The groups at hand
are those of the last test that was put. After the visit no condition holds the next rule back. -/
theorem conditions_guard_rule {directives : List Directive} {facts : Facts} {visits : List Visit}
    {c : Config} {r : Rule} {ahead : List Directive} (hvisits : Reaches directives facts visits c)
    (hrest : c.rest = .rule r :: ahead) (hskip : c.state.skip = 0) (holds : Guard → Bool)
    (hholds : Tells holds (guards visits)) :
    (∀ v ∈ visits.rtakeWhile fun v => !v.reachesRule, ∀ rule,
      ¬ v.Fires facts.applicationPath rule) ∧
    (c.state.conditionsHold = true ↔ LetThrough holds (guards visits)) ∧
    (LetThrough holds (guards visits) → (r.flags.chain = true → c.state.previousFired = true) →
      r.visit facts.applicationPath c.state = r.attempt facts.applicationPath c.state) ∧
    (¬ LetThrough holds (guards visits) →
      step directives facts.applicationPath c =
        some (.ok (c.pass ahead { c.state with conditionsHold := true }))) ∧
    (∀ i g, (guards visits)[i]? = some g →
      (g.isEvaluated = true ↔ g.orNext = true ∨ LetThrough holds ((guards visits).take i)) ∧
      (g.isEvaluated = false → ∀ subject criterion,
        ({ g.condition with subject, criterion } : Condition).visit g.state = .ok g.state)) ∧
    (evaluated visits = [] → c.state.groups = none) ∧
    (∀ g, (evaluated visits).getLast? = some g →
      ∃ verdict, g.verdict = .ok verdict ∧ c.state.groups = verdict.groups ∧
        (c.state.groups = none ↔ ∀ criterion, g.condition.criterion = some criterion →
          ∀ p, criterion.comparand ≠ .pattern p)) ∧
    ∀ c', step directives facts.applicationPath c = some (.ok c') →
      c'.state.conditionsHold = true := by
  have hlet := hvisits.conditionsHold_iff rfl hholds
  obtain ⟨hnone, hlast⟩ := hvisits.groups_eq rfl
  refine ⟨?_, hlet, ?_, ?_, ?_, hnone, ?_, ?_⟩
  · rintro v hv rule ⟨hdirective, state, course, hvisit⟩
    have hreaches := List.mem_rtakeWhile_imp hv
    simp [Visit.reachesRule, hdirective, Rule.skip_eq_zero_of_visit hvisit] at hreaches
  · intro hthrough hchain
    exact Rule.visit_of_isTried (Rule.isTried_iff.mpr ⟨hskip, hlet.mpr hthrough, hchain⟩)
  · intro hheld
    have htried : r.isTried c.state = false := by
      rw [Bool.eq_false_iff, ne_eq, Rule.isTried_iff]
      exact fun htried => hheld (hlet.mp htried.2.1)
    have hpassOver : c.state.passOver = { c.state with conditionsHold := true } :=
      if_neg (by omega)
    simp only [step, hrest, Directive.visit, Rule.visit_of_not_isTried htried, hpassOver]
  · intro i g hg
    refine ⟨hvisits.isEvaluated_iff rfl hholds hg, fun hevaluated subject criterion => ?_⟩
    exact Condition.visit_of_not_isEvaluated hevaluated
  · intro g hg
    obtain ⟨verdict, hverdict, hgroups⟩ := hlast g hg
    refine ⟨verdict, hverdict, hgroups, ?_⟩
    rw [hgroups]
    exact Guard.groups_eq_none_iff hverdict
  · intro c' hstep
    obtain ⟨course, hvisit⟩ := visit_of_step hrest hstep
    rw [Rule.conditionsHold_of_visit hvisit, if_pos hskip]

private def comparison (subject text : String) (orNext : Bool) : Directive :=
  .condition {
    line := 1
    text := []
    subject := subject.toList
    criterion := some { comparand := .equal text.toList, negated := false, noCase := false }
    flags := { orNext } }

private def guardedRule : List Directive := [
  comparison "a" "b" false,
  comparison "%\x7bNONE\x7d" "" false,
  comparison "c" "c" true,
  comparison "d" "d" false,
  .rule {
    line := 5
    text := []
    pattern := none
    negated := false
    substitution := .keep
    flags := {} }]

/-- The first condition fails, so that the second, which has no value to test, is not put to the
test. The third makes up for both, and the fourth holds. -/
theorem conditions_guard_rule_after_or :
    ∃ visits c, Reaches guardedRule { url := ['/'], now := ⟨2000, 1, 1, 0, 0, 0⟩ } visits c ∧
      c.state.skip = 0 ∧ (guards visits).length = 4 ∧ (evaluated visits).length = 3 ∧
      LetThrough (fun g => g.verdict.toOption.any Verdict.matched) (guards visits) := by
  have hvisits : Reaches guardedRule { url := ['/'], now := ⟨2000, 1, 1, 0, 0, 0⟩ } _ _ :=
    .snoc (.snoc (.snoc (.snoc .nil rfl rfl) rfl rfl) rfl rfl) rfl rfl
  refine ⟨_, _, hvisits, rfl, rfl, rfl, ?_⟩
  refine (conditions_guard_rule hvisits rfl rfl _ ?_).2.1.mp rfl
  intro g _ _ verdict hverdict
  simp [hverdict, Except.toOption]

end Reroute.Pass
