import Reroute.Proofs.Pass.History

/-!
# The rules that fire

Only a rule that fires changes the URL, the variables and what a pass will say. Conditions, and rules
that are passed over or do not match, leave all of that alone. So what a pass has come to at any
point is what its last firing left.
-/

namespace Reroute.Pass

/-- A rule that fired, the state in which the pass came to it, and the groups of its match. -/
structure Firing where
  rule : Rule
  state : State
  groups : Groups

namespace Firing

/-- A firing makes this URL from the one at which the pass came to the rule. -/
def Makes (f : Firing) (path url : Text) : Prop :=
  f.rule.newUrl (Url.pathBelow f.state.url path) f.groups f.state = .ok url

def after (f : Firing) (url : Text) : State × Course :=
  f.rule.apply f.groups { f.state with url, previousFired := true }

end Firing

def Visit.firing? (v : Visit) (path : Text) : Option Firing :=
  match v.directive with
  | .condition _ => none
  | .rule rule =>
    match rule.visit path v.state, rule.match? (Url.pathBelow v.state.url path) with
    | .ok (_, some _), .ok (some groups) => some { rule, state := v.state, groups }
    | _, _ => none

def firings (path : Text) (visits : List Visit) : List Firing :=
  visits.filterMap (·.firing? path)

/-- Two states differ at most in what steers a pass: in what is held back, skipped or captured. -/
structure State.SameResult (s t : State) : Prop where
  url : t.url = s.url
  environment : t.environment = s.environment
  action : t.action = s.action
  cookies : t.cookies = s.cookies
  contentType : t.contentType = s.contentType

variable {directives : List Directive} {path : Text} {c c' : Config} {visits : List Visit}
  {state state' : State} {d : Directive} {course : Course}

theorem State.SameResult.refl (s : State) : s.SameResult s := ⟨rfl, rfl, rfl, rfl, rfl⟩

theorem State.SameResult.trans {s t u : State} (h : s.SameResult t) (h' : t.SameResult u) :
    s.SameResult u where
  url := h'.url.trans h.url
  environment := h'.environment.trans h.environment
  action := h'.action.trans h.action
  cookies := h'.cookies.trans h.cookies
  contentType := h'.contentType.trans h.contentType

theorem State.SameResult.outcome_eq {s t : State} (h : s.SameResult t) :
    t.outcome = s.outcome := by
  rw [State.outcome, State.outcome, h.action, h.cookies, h.contentType]

/-! ### One visit -/

theorem sameResult_of_visit (hvisit : d.visit path state = .ok (state', none)) :
    state.SameResult state' := by
  cases d with
  | condition condition =>
      cases Condition.visited_of_visit (Directive.visit_condition hvisit) <;>
        exact ⟨rfl, rfl, rfl, rfl, rfl⟩
  | rule rule => cases Rule.visited_of_visit hvisit <;> exact ⟨rfl, rfl, rfl, rfl, rfl⟩

theorem firing?_of_visit_none (hvisit : d.visit path state = .ok (state', none)) :
    Visit.firing? ⟨d, state⟩ path = none := by
  cases d with
  | condition condition => rfl
  | rule rule =>
      rw [Directive.visit] at hvisit
      simp [Visit.firing?, hvisit]

theorem exists_firing (hvisit : d.visit path state = .ok (state', some course)) :
    ∃ f url, Visit.firing? ⟨d, state⟩ path = some f ∧ f.state = state ∧ d = .rule f.rule ∧
      f.Makes path url ∧ f.after url = (state', course) := by
  cases d with
  | condition condition =>
      cases hcondition : condition.visit state <;>
        simp [Directive.visit, hcondition, Except.map] at hvisit
  | rule rule =>
      rw [Directive.visit] at hvisit
      cases Rule.visited_of_visit hvisit with
      | @fired groups url htried hmatch hflags hurl =>
          refine ⟨⟨rule, state, groups⟩, url, ?_, rfl, rfl, hurl, rfl⟩
          simp [Visit.firing?, hvisit, hmatch]

theorem exists_firing_rule {r : Rule} (hvisit : r.visit path state = .ok (state', some course)) :
    ∃ groups, Visit.firing? ⟨.rule r, state⟩ path = some ⟨r, state, groups⟩ := by
  obtain ⟨f, url, hfiring, rfl, hrule, -, -⟩ := exists_firing (d := .rule r) hvisit
  obtain rfl := Directive.rule.inj hrule
  exact ⟨f.groups, hfiring⟩

theorem directive_of_firing? {v : Visit} {f : Firing} (h : v.firing? path = some f) :
    v.directive = .rule f.rule := by
  unfold Visit.firing? at h
  split at h
  · cases h
  · split at h
    · cases h
      assumption
    · cases h

theorem firings_concat (v : Visit) :
    firings path (visits ++ [v]) = firings path visits ++ (v.firing? path).toList := by
  unfold firings
  cases hfiring : v.firing? path <;> simp [hfiring]

/-! ### Whole histories -/

namespace History

/-- What holds of a state and the firings that led to it holds all along, if a visit without a
firing and a firing both keep it. -/
theorem firing_invariant {P : List Firing → State → Prop}
    (hvisits : History directives path c visits c') (hstart : P [] c.state)
    (hpassed : ∀ fs s t, P fs s → s.SameResult t → P fs t)
    (hfired : ∀ fs f url, P fs f.state → f.Makes path url → P (fs ++ [f]) (f.after url).1) :
    P (firings path visits) c'.state := by
  refine hvisits.invariant (P := fun visits state => P (firings path visits) state) hstart ?_
  intro visits d state state' course ih hvisit
  rw [firings_concat]
  cases course with
  | none =>
      rw [firing?_of_visit_none hvisit, Option.toList_none, List.append_nil]
      exact hpassed _ _ _ ih (sameResult_of_visit hvisit)
  | some course =>
      obtain ⟨f, url, hfiring, rfl, -, hurl, hafter⟩ := exists_firing hvisit
      have hstate : (f.after url).1 = state' := congrArg Prod.fst hafter
      rw [hfiring, Option.toList_some, ← hstate]
      exact hfired _ f url ih hurl

/-- What a pass has come to is what its last firing left. -/
theorem sameResult_after_last (hvisits : History directives path c visits c') :
    (firings path visits = [] → c.state.SameResult c'.state) ∧
      ∀ f, (firings path visits).getLast? = some f →
        ∃ url, f.Makes path url ∧ (f.after url).1.SameResult c'.state := by
  refine hvisits.firing_invariant
    (P := fun fs state => (fs = [] → c.state.SameResult state) ∧
      ∀ f, fs.getLast? = some f → ∃ url, f.Makes path url ∧ (f.after url).1.SameResult state)
    ?_ ?_ ?_
  · exact ⟨fun _ => .refl _, by simp⟩
  · rintro fs s t ⟨hnone, hlast⟩ hsame
    refine ⟨fun hempty => (hnone hempty).trans hsame, fun f hf => ?_⟩
    obtain ⟨url, hurl, hafter⟩ := hlast f hf
    exact ⟨url, hurl, hafter.trans hsame⟩
  · intro fs f url _ hurl
    refine ⟨by simp, fun f' hf' => ?_⟩
    obtain rfl : f = f' := by simpa using hf'
    exact ⟨url, hurl, .refl _⟩

theorem fired_eq (hvisits : History directives path c visits c') :
    c'.fired.reverse = c.fired.reverse ++ (firings path visits).map (·.rule.line) := by
  induction hvisits with
  | nil => simp [firings]
  | @snoc visits d ahead c' c'' _ hrest hstep ih =>
      rw [firings_concat]
      obtain ⟨state, hvisit, rfl⟩ | ⟨rule, state, course, rfl, hvisit, rfl⟩ :=
        step_cases hrest hstep
      · rw [firing?_of_visit_none hvisit]
        simpa [Config.pass] using ih
      · obtain ⟨groups, hfiring⟩ := exists_firing_rule hvisit
        rw [hfiring]
        simp [Config.fire, ih]

end History

end Reroute.Pass
