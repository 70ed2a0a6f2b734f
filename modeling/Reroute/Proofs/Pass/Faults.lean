import Reroute.Proofs.Pass.Budget
import Reroute.Proofs.Rules.Flags
import Reroute.Proofs.Scan

/-!
# What a failure tells

A directive can fail for five reasons, and only one of them is told. Which one it is follows from the
order in which a visit looks at things: the gates come first, then the variables of a test before its
pattern, and for a rule the pattern, the flags and the target. The state is replaced only when all
of this has gone well, so that a failure shows the URL at which the directive was reached.
-/

namespace Reroute

open Pass

namespace Condition

variable {c : Condition} {state : State} {fault : Fault}

inductive Fails (c : Condition) (state : State) : Fault → Prop
  /-- The leftmost variable without a text decides, be the pattern valid or not. -/
  | subject {before after : List Text} {name : Text} {fault : Fault}
      (hnames : Piece.references (variablePieces c.subject) = before ++ name :: after)
      (hbefore : ∀ other ∈ before, ∃ text, state.environment.read other state.url = .ok text)
      (hread : state.environment.read name state.url = .error fault) : Fails c state fault
  | criterion
      (hnames : ∀ name ∈ Piece.references (variablePieces c.subject),
        ∃ text, state.environment.read name state.url = .ok text)
      (hcriterion : c.criterion = none) : Fails c state .invalidPattern

theorem verdict_eq_error_iff : c.verdict state = .error fault ↔ c.Fails state fault := by
  constructor
  · intro h
    unfold verdict at h
    cases hvalue : state.environment.expand state.url c.subject with
    | error fault' =>
        obtain rfl : fault' = fault := by simpa [hvalue, bind, Except.bind] using h
        obtain ⟨before, name, after, hnames, hread, hbefore⟩ := Piece.expand_eq_error_iff.mp hvalue
        exact .subject hnames hbefore hread
    | ok value =>
        cases hcriterion : c.criterion with
        | none =>
            obtain rfl : Fault.invalidPattern = fault := by
              simpa [hvalue, hcriterion, bind, Except.bind, throw, throwThe, MonadExceptOf.throw]
                using h
            exact .criterion (Piece.exists_expand_iff.mp ⟨value, hvalue⟩) hcriterion
        | some criterion => simp [hvalue, hcriterion, bind, Except.bind, pure, Except.pure] at h
  · rintro (⟨hnames, hbefore, hread⟩ | ⟨hnames, hcriterion⟩)
    · have hvalue : state.environment.expand state.url c.subject = .error fault :=
        Piece.expand_eq_error_iff.mpr ⟨_, _, _, hnames, hread, hbefore⟩
      rw [verdict, hvalue]
      rfl
    · obtain ⟨value, hvalue⟩ := Piece.exists_expand_iff.mpr hnames
      have hvalue : state.environment.expand state.url c.subject = .ok value := hvalue
      rw [verdict, hvalue, hcriterion]
      rfl

theorem visit_eq_error_iff :
    c.visit state = .error fault ↔
      (c.flags.orNext = true ∨ state.conditionsHold = true) ∧ c.Fails state fault := by
  have hgate : c.isEvaluated state = true ↔ c.flags.orNext = true ∨ state.conditionsHold = true :=
    Bool.or_eq_true_iff
  rw [← hgate, ← verdict_eq_error_iff, visit]
  split_ifs with hevaluated
  · cases c.verdict state <;> simp [hevaluated, Except.map]
  · simp [hevaluated]

end Condition

namespace Rule

variable {r : Rule} {path : Text} {state : State} {fault : Fault}

/-- How a rule fails once it is tried. A refusal is a flag like others here: it takes effect only
when the rule has a new URL. -/
inductive Fails (r : Rule) (path : Text) (state : State) : Fault → Prop
  | pattern (hpattern : r.pattern = none) : Fails r path state .invalidPattern
  | flag {groups : Groups} {token : Text}
      (hfires : r.FiresOn (Url.pathBelow state.url path) groups)
      (hflag : r.flags.invalid = some token) : Fails r path state (.invalidFlag token)
  | target {groups : Groups} {target : Text} {fault : Fault}
      (hfires : r.FiresOn (Url.pathBelow state.url path) groups)
      (hflag : r.flags.invalid = none) (htarget : r.substitution = .target target)
      (hexpand : state.environment.expandAll state.url state.groups groups target = .error fault) :
      Fails r path state fault

theorem newUrl_eq_error_iff {below : Text} {groups : Groups} :
    r.newUrl below groups state = .error fault ↔
      ∃ target, r.substitution = .target target ∧
        state.environment.expandAll state.url state.groups groups target = .error fault := by
  unfold newUrl
  cases r.substitution with
  | keep => simp
  | target target =>
      cases hexpand : state.environment.expandAll state.url state.groups groups target <;>
        simp [hexpand, bind, Except.bind, pure, Except.pure]

theorem fire_eq_error_iff {below : Text} {groups : Groups} :
    r.fire below groups state = .error fault ↔
      (∃ token, r.flags.invalid = some token ∧ fault = .invalidFlag token) ∨
        r.flags.invalid = none ∧ r.newUrl below groups state = .error fault := by
  unfold fire
  cases r.flags.invalid with
  | some token => simp [eq_comm]
  | none => cases r.newUrl below groups state <;> simp [Except.map]

theorem attempt_eq_error_iff : r.attempt path state = .error fault ↔ r.Fails path state fault := by
  constructor
  · intro h
    rw [attempt_eq] at h
    cases hmatch : r.match? (Url.pathBelow state.url path) with
    | error fault' =>
        obtain rfl : fault' = fault := by simpa [hmatch] using h
        obtain ⟨hpattern, rfl⟩ := match?_eq_error_iff.mp hmatch
        exact .pattern hpattern
    | ok matched =>
        cases matched with
        | none => simp [hmatch] at h
        | some groups =>
            have hfires := match?_eq_some_iff.mp hmatch
            have hfire : r.fire (Url.pathBelow state.url path) groups state = .error fault := by
              rw [hmatch] at h
              cases hfire : r.fire (Url.pathBelow state.url path) groups state with
              | error fault' => simpa [hfire, Except.map] using h
              | ok result => simp [hfire, Except.map] at h
            rcases fire_eq_error_iff.mp hfire with ⟨token, hflag, rfl⟩ | ⟨hflag, hurl⟩
            · exact .flag hfires hflag
            · obtain ⟨target, htarget, hexpand⟩ := newUrl_eq_error_iff.mp hurl
              exact .target hfires hflag htarget hexpand
  · have hfire : ∀ groups, r.FiresOn (Url.pathBelow state.url path) groups →
        r.fire (Url.pathBelow state.url path) groups state = .error fault →
          r.attempt path state = .error fault := by
      intro groups hfires hfire
      rw [attempt_eq, match?_eq_some_iff.mpr hfires]
      dsimp only
      rw [hfire]
      rfl
    rintro (hpattern | ⟨hfires, hflag⟩ | ⟨hfires, hflag, htarget, hexpand⟩)
    · rw [attempt_eq, match?_eq_error_iff.mpr ⟨hpattern, rfl⟩]
    · exact hfire _ hfires (fire_eq_error_iff.mpr (.inl ⟨_, hflag, rfl⟩))
    · refine hfire _ hfires (fire_eq_error_iff.mpr (.inr ⟨hflag, ?_⟩))
      exact newUrl_eq_error_iff.mpr ⟨_, htarget, hexpand⟩

theorem visit_eq_error_iff :
    r.visit path state = .error fault ↔
      (state.skip = 0 ∧ state.conditionsHold = true ∧
        (r.flags.chain = true → state.previousFired = true)) ∧ r.Fails path state fault := by
  rw [← isTried_iff]
  cases htried : r.isTried state with
  | false => simp [visit_of_not_isTried htried]
  | true => simp [visit_of_isTried htried, attempt_eq_error_iff]

end Rule

/-- How a visit to a directive fails: the gates before it are open, and it is put to the test. -/
def Directive.Fails (d : Directive) (path : Text) (state : State) (fault : Fault) : Prop :=
  match d with
  | .condition c => (c.flags.orNext = true ∨ state.conditionsHold = true) ∧ c.Fails state fault
  | .rule r =>
    (state.skip = 0 ∧ state.conditionsHold = true ∧
      (r.flags.chain = true → state.previousFired = true)) ∧ r.Fails path state fault

theorem Directive.visit_eq_error_iff {d : Directive} {path : Text} {state : State} {fault : Fault} :
    d.visit path state = .error fault ↔ d.Fails path state fault := by
  cases d with
  | condition c =>
      rw [Fails, ← Condition.visit_eq_error_iff, visit]
      cases c.visit state <;> simp [Except.map]
  | rule r => exact Rule.visit_eq_error_iff

namespace Pass

variable {directives : List Directive} {path : Text} {c : Config} {e : Evaluation}

theorem step_eq_error_iff :
    step directives path c = some (.error e) ↔
      ∃ d ahead, c.rest = d :: ahead ∧ e.line = d.line ∧ e.text = d.text ∧ e.url = c.state.url ∧
        d.Fails path c.state e.fault := by
  constructor
  · intro h
    obtain ⟨d, ahead, hrest⟩ := exists_rest_of_step h
    rw [step_of_rest hrest, Option.some.injEq] at h
    cases hvisit : d.visit path c.state with
    | error fault =>
        obtain rfl : { fault, line := d.line, text := d.text, url := c.state.url } = e := by
          simpa [hvisit] using h
        exact ⟨d, ahead, hrest, rfl, rfl, rfl, Directive.visit_eq_error_iff.mp hvisit⟩
    | ok result =>
        obtain ⟨state, course⟩ := result
        cases course <;> simp [hvisit] at h
  · rintro ⟨d, ahead, hrest, hline, htext, hurl, hfails⟩
    rw [step_of_rest hrest, Directive.visit_eq_error_iff.mpr hfails, ← hline, ← htext, ← hurl]

end Pass

/-- **A failure tells the truth.** A pass fails at a directive if and only if it gets there within its
budget and the directive fails in the state in which it is reached. The failure then names the line
and the text of this directive, and the URL of this state. The token that a rule fails for is the
first of its flags that cannot be used. -/
theorem Report.ofDirectives_eq_evaluation_iff (directives : List Directive) (facts : Facts)
    (options : Options) (e : Evaluation) :
    (ofDirectives directives facts options = .error (.evaluation e) ↔
      ∃ visits c d ahead, Reaches directives facts visits c ∧
        visits.length < options.budget directives.length ∧ c.rest = d :: ahead ∧
        e.line = d.line ∧ e.text = d.text ∧ e.url = c.state.url ∧
        d.Fails facts.applicationPath c.state e.fault) ∧
    ∀ tokens token, (RuleFlags.ofTokens tokens).invalid = some token ↔
      ∃ before after, tokens = before ++ token :: after ∧
        FlagToken.unusable? token = some token ∧
        ∀ other ∈ before, FlagToken.unusable? other = none := by
  constructor
  · constructor
    · intro h
      have hsettled : ∀ p url,
          ofDirectives directives facts options ≠ .error (.unsettled p url) := by simp [h]
      obtain ⟨p, hp, result, hends⟩ := exists_ends_of_ne_unsettled hsettled
      have hreport := ofDirectives_of_ends hends hp
      rw [h] at hreport
      cases hends with
      | settled _ _ => simp [Except.map, Except.mapError] at hreport
      | @fault visits c e' hvisits hfault =>
          obtain rfl : e = e' := by simpa [Except.map, Except.mapError] using hreport
          obtain ⟨d, ahead, hrest, htold⟩ := step_eq_error_iff.mp hfault
          exact ⟨visits, c, d, ahead, hvisits, hp, hrest, htold⟩
    · rintro ⟨visits, c, d, ahead, hvisits, hbudget, hrest, htold⟩
      have hfault : step directives facts.applicationPath c = some (.error e) :=
        step_eq_error_iff.mpr ⟨d, ahead, hrest, htold⟩
      exact ofDirectives_of_ends (.fault hvisits hfault) hbudget
  · intro tokens token
    exact RuleFlags.invalid_ofTokens_eq_some_iff

end Reroute
