import Mathlib.Data.List.Basic
import Reroute.Proofs.Pass.Budget
import Reroute.Proofs.Pass.Parallel
import Reroute.Proofs.Rules.OneChar

/-!
# Rules that do nothing in a pass

A visit at which a rule does not fire asks only whether the rule is tried and, if it is, whether its
pattern matches. Everything else that a rule carries counts when it fires: its flags may be of no use
and its target may refer to what is not there. So a rule that does not fire in a pass can be replaced
by one with the same pattern, and a rule that is not even tried by any. The two passes stand at the
same place, in the same state, from their first visit to their last.
-/

namespace Reroute

open Pass

variable {directives : List Directive} {facts : Facts} {options : Options} {path : Text} {i : Nat}

/-! ### One visit -/

namespace Rule

variable {r r' : Rule} {state state' : State}

/-- Two rules do not differ before they fire. -/
structure SameTrial (r r' : Rule) : Prop where
  pattern : r'.pattern = r.pattern
  negated : r'.negated = r.negated
  chain : r'.flags.chain = r.flags.chain

theorem isTried_eq_of_chain (hchain : r'.flags.chain = r.flags.chain) (state : State) :
    r'.isTried state = r.isTried state := by
  rw [isTried, isTried, hchain]

theorem visit_eq_of_not_isTried (hchain : r'.flags.chain = r.flags.chain)
    (htried : r.isTried state = false) :
    r.visit path state = .ok (state.passOver, none) ∧
      r'.visit path state = .ok (state.passOver, none) := by
  have htried' : r'.isTried state = false := (isTried_eq_of_chain hchain state).trans htried
  exact ⟨visit_of_not_isTried htried, visit_of_not_isTried htried'⟩

theorem SameTrial.visit_eq (h : r.SameTrial r') (hvisit : r.visit path state = .ok (state', none)) :
    r'.visit path state = .ok (state', none) := by
  cases htried : r.isTried state with
  | false =>
      rw [(visit_eq_of_not_isTried h.chain htried).2]
      rwa [(visit_eq_of_not_isTried h.chain htried).1] at hvisit
  | true =>
      have htried' : r'.isTried state = true := (isTried_eq_of_chain h.chain state).trans htried
      have hmatch : r'.match? (Url.pathBelow state.url path) =
          r.match? (Url.pathBelow state.url path) := by
        rw [match?, match?, h.pattern, h.negated]
      rw [visit_of_isTried htried, attempt_eq] at hvisit
      rw [visit_of_isTried htried', attempt_eq, hmatch]
      cases hmatched : r.match? (Url.pathBelow state.url path) with
      | error fault => simp [hmatched] at hvisit
      | ok matched =>
          cases matched with
          | none => rwa [hmatched] at hvisit
          | some groups =>
              -- The rule fires, and then its visit does not end like this.
              cases hfire : r.fire (Url.pathBelow state.url path) groups state <;>
                simp [hmatched, hfire, Except.map] at hvisit

theorem sameTrial_ofFields {fields fields' : Fields} (line line' : Nat) (text text' : Text)
    (hfirst : fields'.first = fields.first)
    (hchain : (RuleFlags.ofTokens fields'.flags).chain = (RuleFlags.ofTokens fields.flags).chain)
    (hnoCase :
      (RuleFlags.ofTokens fields'.flags).noCase = (RuleFlags.ofTokens fields.flags).noCase) :
    (ofFields line text fields).SameTrial (ofFields line' text' fields') where
  pattern := by simp only [ofFields, hfirst, hnoCase]
  negated := by simp only [ofFields, hfirst]
  chain := hchain

end Rule

/-! ### Two passes at the same place -/

namespace Pass

variable {c e : Config} {d d' : Directive} {state : State}

def Config.SamePlace (directives directives' : List Directive) (c e : Config) : Prop :=
  ∃ place, c.rest = directives.drop place ∧ e = { c with rest := directives'.drop place }

theorem Config.SamePlace.rest_iff (h : c.SamePlace directives (directives.set i d') e) :
    c.rest = [] ↔ e.rest = [] := by
  obtain ⟨place, hrest, rfl⟩ := h
  simp [hrest]

theorem Config.samePlace_fire (c : Config) (place line : Nat) (state : State) (course : Course) :
    (c.fire directives (directives.drop (place + 1)) line state course).SamePlace directives
      (directives.set i d')
      (c.fire (directives.set i d') ((directives.set i d').drop (place + 1)) line state course) := by
  cases course with
  | next => exact ⟨place + 1, rfl, rfl⟩
  | restart => exact ⟨0, rfl, rfl⟩
  | stop => exact ⟨directives.length, by simp [Config.fire], by simp [Config.fire]⟩

theorem step_set (hplace : directives[i]? = some d)
    (h : c.SamePlace directives (directives.set i d') e)
    (hvisit : c.rest = directives.drop i → ∃ state, d.visit path c.state = .ok (state, none) ∧
      d'.visit path c.state = .ok (state, none)) :
    Option.Rel (Alike Eq (Config.SamePlace directives (directives.set i d')))
      (step directives path c) (step (directives.set i d') path e) := by
  obtain ⟨place, hrest, rfl⟩ := h
  by_cases hlt : place < directives.length
  · have hlt' : place < (directives.set i d').length := by simpa using hlt
    have hrest' := hrest
    rw [List.drop_eq_getElem_cons hlt] at hrest'
    have hahead := List.drop_eq_getElem_cons hlt'
    by_cases hi : i = place
    · subst hi
      obtain ⟨state, hstate, hstate'⟩ := hvisit hrest
      have hd : directives[i] = d := (List.getElem?_eq_some_iff.mp hplace).2
      rw [List.getElem_set_self] at hahead
      rw [step_of_rest hrest', step_of_rest hahead, hd, hstate, hstate']
      exact .some (.ok ⟨i + 1, rfl, rfl⟩)
    · rw [List.getElem_set_ne hi] at hahead
      refine step_alike_of_visit hrest' hahead (Alike.refl _ fun _ => ⟨rfl, rfl⟩)
        (fun _ => rfl) ?_ ?_
      · rintro state _ rfl
        exact ⟨place + 1, rfl, rfl⟩
      · rintro state _ course rfl
        exact c.samePlace_fire place _ state course
  · have hempty : c.rest = [] := by simpa [hrest] using hlt
    have hempty' : (directives.set i d').drop place = [] := by simpa using hlt
    rw [step_eq_none_iff.mpr hempty, step_eq_none_iff.mpr hempty']
    exact .none

/-- A pass comes to the directive at a place, in this state, before its budget is spent. -/
def ComesTo (directives : List Directive) (facts : Facts) (options : Options) (i : Nat)
    (state : State) : Prop :=
  ∃ visits c, Reaches directives facts visits c ∧
    visits.length < options.budget directives.length ∧ c.rest = directives.drop i ∧ c.state = state

def points (directives : List Directive) (path : Text) : Nat → Config → List Config
  | 0, c => [c]
  | count + 1, c =>
    c :: match step directives path c with
      | some (.ok c') => points directives path count c'
      | _ => []

theorem History.mem_points {visits : List Visit} {c' : Config} {count : Nat}
    (hvisits : History directives path c visits c') (hcount : visits.length ≤ count) :
    c' ∈ points directives path count c := by
  induction count generalizing c visits with
  | zero =>
      obtain ⟨-, rfl⟩ | ⟨_, _, _, _, -, -, rfl, -⟩ := hvisits.eq_or_step
      · exact List.mem_singleton_self c'
      · simp at hcount
  | succ count ih =>
      obtain ⟨-, rfl⟩ | ⟨_, _, c₁, later, -, hstep, rfl, hlater⟩ := hvisits.eq_or_step
      · exact List.mem_cons_self
      · rw [points, hstep]
        exact List.mem_cons_of_mem _ (ih hlater (by simpa using hcount))

/-- What holds whenever a pass comes to a directive can be found out by following the pass. -/
theorem of_comesTo {P : State → Prop}
    (h : ∀ c ∈ points directives facts.applicationPath (options.budget directives.length)
      (.start directives facts), c.rest.length = directives.length - i → P c.state)
    (hcomes : ComesTo directives facts options i state) : P state := by
  obtain ⟨visits, c, hvisits, hlt, hrest, rfl⟩ := hcomes
  exact h c (hvisits.mem_points (Nat.le_of_lt hlt)) (by rw [hrest, List.length_drop])

theorem ofDirectives_set_eq (hplace : directives[i]? = some d)
    (hvisit : ∀ state, ComesTo directives facts options i state →
      ∃ state', d.visit facts.applicationPath state = .ok (state', none) ∧
        d'.visit facts.applicationPath state = .ok (state', none)) :
    Report.ofDirectives (directives.set i d') facts options =
      Report.ofDirectives directives facts options := by
  -- What is known of the directives holds for visits within the budget, and only these are made.
  let Together (left : Nat) (c e : Config) : Prop :=
    (∃ visits, Reaches directives facts visits c ∧
      visits.length + left = options.budget directives.length) ∧
    c.SamePlace directives (directives.set i d') e
  have hstep : ∀ left c e, Together (left + 1) c e →
      Option.Rel (Alike Eq (Together left)) (step directives facts.applicationPath c)
        (step (directives.set i d') facts.applicationPath e) := by
    rintro left c e ⟨⟨visits, hvisits, hleft⟩, hsame⟩
    have hrel : Option.Rel _ (step directives facts.applicationPath c) _ :=
      step_set hplace hsame fun hrest =>
        hvisit c.state ⟨visits, c, hvisits, by omega, hrest, rfl⟩
    generalize hx : step directives facts.applicationPath c = x at hrel ⊢
    generalize step (directives.set i d') facts.applicationPath e = y at hrel ⊢
    cases hrel with
    | none => exact .none
    | some hresult =>
        cases hresult with
        | error he => exact .some (.error he)
        | ok hsame' =>
            obtain ⟨e, ahead, hrest⟩ := exists_rest_of_step hx
            refine .some (.ok ⟨⟨_, hvisits.snoc hrest hx, ?_⟩, hsame'⟩)
            rw [List.length_append, List.length_singleton]
            omega
  have hrun := run_alike_within (F := Eq) hstep
    (fun c e h => h.2.rest_iff) (fun _ _ => congrArg Failure.evaluation)
    (by rintro c _ ⟨-, place, -, rfl⟩; rfl) (options.budget directives.length)
    (c := .start directives facts) (d := .start (directives.set i d') facts)
    ⟨⟨[], .nil, Nat.zero_add _⟩, 0, rfl, rfl⟩
  have hreport := hrun.map (S := Eq) (f := Report.ofConfig) (g := Report.ofConfig)
    (by rintro c _ ⟨_, -, place, -, rfl⟩; rfl)
  rw [Report.ofDirectives, Report.ofDirectives, List.length_set]
  exact hreport.eq.symm

theorem ofDirectives_of_fault {fault : Fault} (hplace : directives[i]? = some d)
    (hcomes : ComesTo directives facts options i state)
    (hfault : d.visit facts.applicationPath state = .error fault) :
    Report.ofDirectives directives facts options =
      .error (.evaluation { fault, line := d.line, text := d.text, url := state.url }) := by
  obtain ⟨visits, c, hvisits, hlt, hrest, rfl⟩ := hcomes
  obtain ⟨hi, rfl⟩ := List.getElem?_eq_some_iff.mp hplace
  rw [List.drop_eq_getElem_cons hi] at hrest
  have hstep : step directives facts.applicationPath c = _ := step_of_rest hrest
  rw [hfault] at hstep
  exact Report.ofDirectives_of_ends (.fault hvisits hstep) hlt

/-- **A rule that does nothing in a pass can be broken.** As long as a rule does not fire and the pass
does not fail at it, everything that it carries can be replaced but its pattern and whether it depends
on the rule before it. In the rule text that is its second field and all flags but `C` and `NC`. If
the rule is never even tried, its pattern can be replaced as well. -/
theorem ofDirectives_set_rule_eq (directives : List Directive) (facts : Facts) (options : Options)
    {i : Nat} {r : Rule} (hplace : directives[i]? = some (.rule r)) :
    ((∀ state, ComesTo directives facts options i state → ∀ state' course,
        r.visit facts.applicationPath state ≠ .ok (state', some course)) →
      (∀ e, Report.ofDirectives directives facts options = .error (.evaluation e) →
        e.line ≠ r.line) →
      (∀ r', r.SameTrial r' →
        Report.ofDirectives (directives.set i (.rule r')) facts options =
          Report.ofDirectives directives facts options) ∧
      ∀ fields fields' : Fields, r = .ofFields r.line r.text fields →
        fields'.first = fields.first →
        (RuleFlags.ofTokens fields'.flags).chain = (RuleFlags.ofTokens fields.flags).chain →
        (RuleFlags.ofTokens fields'.flags).noCase = (RuleFlags.ofTokens fields.flags).noCase →
        ∀ text, Report.ofDirectives
            (directives.set i (.rule (.ofFields r.line text fields'))) facts options =
          Report.ofDirectives directives facts options) ∧
    ((∀ state, ComesTo directives facts options i state → r.isTried state = false) →
      ∀ r' : Rule, r'.flags.chain = r.flags.chain →
        Report.ofDirectives (directives.set i (.rule r')) facts options =
          Report.ofDirectives directives facts options) := by
  constructor
  · intro hfires hline
    have hkept : ∀ r', r.SameTrial r' →
        Report.ofDirectives (directives.set i (.rule r')) facts options =
          Report.ofDirectives directives facts options := by
      intro r' hsame
      refine ofDirectives_set_eq hplace fun state hcomes => ?_
      cases hvisit : r.visit facts.applicationPath state with
      | error fault =>
          have hfailed := ofDirectives_of_fault hplace hcomes hvisit
          exact absurd rfl (hline _ hfailed)
      | ok result =>
          obtain ⟨state', course⟩ := result
          cases course with
          | none => exact ⟨state', hvisit, hsame.visit_eq hvisit⟩
          | some course => exact absurd hvisit (hfires state hcomes state' course)
    refine ⟨hkept, fun fields fields' hr hfirst hchain hnoCase text => hkept _ ?_⟩
    rw [hr]
    exact Rule.sameTrial_ofFields _ _ _ _ hfirst hchain hnoCase
  · intro htried r' hchain
    refine ofDirectives_set_eq hplace fun state hcomes => ⟨state.passOver, ?_⟩
    exact Rule.visit_eq_of_not_isTried hchain (htried state hcomes)

private def skippedRule : Rule := .onChar 2 'b' "/c" ["F"]

private def unmatchedRule : Rule := .onChar 3 'd' "/e" ["C", "L"]

private def idleRules : List Directive :=
  [.rule (.onChar 1 'a' "/b" ["S=1"]), .rule skippedRule, .rule unmatchedRule]

private def idleRequest : Facts where
  url := "/a".toList
  now := ⟨2000, 1, 1, 0, 0, 0⟩

/-- The second rule is skipped and the third is tried in vain. Neither has to be of any use, as long
as the third keeps its pattern. -/
theorem ofDirectives_set_rule_eq_of_idle :
    Report.ofDirectives
        (idleRules.set 1 (.rule { skippedRule with pattern := none })) idleRequest {} =
      Report.ofDirectives idleRules idleRequest {} ∧
    Report.ofDirectives
        (idleRules.set 2 (.rule (.onChar 3 'd' "%" ["C", "S=x", "CO=x:y"]))) idleRequest {} =
      Report.ofDirectives idleRules idleRequest {} := by
  have hskipped : ∀ state, ComesTo idleRules idleRequest {} 1 state →
      skippedRule.isTried state = false := fun _ =>
    of_comesTo (P := fun state => skippedRule.isTried state = false) (by decide +kernel)
  have hunmatched : ∀ state, ComesTo idleRules idleRequest {} 2 state →
      (unmatchedRule.visit [] state).toOption.bind (·.2) = none := fun _ =>
    of_comesTo (P := fun state => (unmatchedRule.visit [] state).toOption.bind (·.2) = none)
      (by decide +kernel)
  have hfires : ∀ state, ComesTo idleRules idleRequest {} 2 state → ∀ state' course,
      unmatchedRule.visit idleRequest.applicationPath state ≠ .ok (state', some course) := by
    intro state hcomes state' course hvisit
    have hnone := hunmatched state hcomes
    have hvisit' : unmatchedRule.visit [] state = .ok (state', some course) := hvisit
    simp [hvisit', Except.toOption] at hnone
  have hreport : Report.ofDirectives idleRules idleRequest {} = .ok _ := rfl
  have hfault : ∀ e, Report.ofDirectives idleRules idleRequest {} = .error (.evaluation e) →
      e.line ≠ unmatchedRule.line := by
    simp [hreport]
  constructor
  · exact (ofDirectives_set_rule_eq idleRules idleRequest {} rfl).2 hskipped _ rfl
  · exact ((ofDirectives_set_rule_eq idleRules idleRequest {} rfl).1 hfires hfault).1 _
      ⟨rfl, rfl, rfl⟩

end Pass

end Reroute
