import Reroute.Proofs.Pass.Dependence

/-!
# Variables that no directive mentions

A pass reads a variable only where a directive has the reference to it written out. Nothing that
comes with the request can add a reference: not its path, not a captured group, not the value of a
variable, and not a value that a rule has set.
-/

namespace Reroute

open Pass

variable {directives : List Directive}

def Directive.Mentioned (directives : List Directive) (name : Text) : Prop :=
  ∃ d ∈ directives, d.Mentions name

theorem Url.isView_id (path : Text) : Url.IsView id path where
  pathBelow h := by rw [id, id] at h; rw [h]
  carryQuery h url append := by rw [id, id] at h; rw [h]

theorem Action.mapUrl_id (action : Action) : action.mapUrl id = action := by
  cases action <;> rfl

theorem Pass.seenThrough_id (result : Except Failure Report) : seenThrough id result = result := by
  cases result with
  | error e => cases e <;> rfl
  | ok report =>
      have haction := report.outcome.action.mapUrl_id
      simp [seenThrough, Except.map, Except.mapError, Report.mapUrl, haction]

/-- **A pass reads the variables that its directives mention, and no others.** Requests whose
mentioned variables have the same texts at every URL have the same result. And at whatever point a
pass may be, with whatever groups and values it has taken from the request, the variables that no
directive mentions can be given any values or taken away, and its result will be the same. -/
theorem ofDirectives_eq_of_mentioned (directives : List Directive) (facts facts' : Facts)
    (options : Options) (hurl : facts.url = facts'.url)
    (hpath : facts.applicationPath = facts'.applicationPath)
    (hread : ∀ name, Directive.Mentioned directives name → ∀ url,
      (Environment.ofFacts facts).read name url = (Environment.ofFacts facts').read name url) :
    Report.ofDirectives directives facts options = Report.ofDirectives directives facts' options ∧
    ∀ visits c, Reaches directives facts visits c → ∀ env : Environment,
      (∀ name, Directive.Mentioned directives name → ∀ url,
        env.read name url = c.state.environment.read name url) →
      ∀ budget, (run directives facts.applicationPath budget
          { c with state.environment := env }).map Report.ofConfig =
        (run directives facts.applicationPath budget c).map Report.ofConfig := by
  have hnames : ∀ d ∈ directives, ∀ name, d.Mentions name → Directive.Mentioned directives name :=
    fun d hd name hname => ⟨d, hd, hname⟩
  constructor
  · have hagree : (Environment.ofFacts facts).AgreeOn (Directive.Mentioned directives) id
        (Environment.ofFacts facts') := by
      rintro name hname url _ rfl
      exact hread name hname url
    have hrun := run_sameUnder (Url.isView_id facts.applicationPath) hnames
      (start_sameUnder hurl hagree) (options.budget directives.length)
    rw [seenThrough_id, seenThrough_id] at hrun
    rw [Report.ofDirectives, Report.ofDirectives, ← hpath, hrun]
  · intro visits c hvisits env henv budget
    have hsame : Config.SameUnder directives (Directive.Mentioned directives) id
        { c with state.environment := env } c := by
      refine ⟨rfl, ?_, ⟨rfl, ?_, rfl, rfl, rfl, rfl, rfl, rfl, rfl⟩, rfl, rfl, rfl⟩
      · exact fun d hd => (hvisits.rest_isSuffix (List.suffix_refl directives)).mem hd
      · rintro name hname url _ rfl
        exact henv name hname url
    have hrun := run_sameUnder (Url.isView_id facts.applicationPath) hnames hsame budget
    rwa [seenThrough_id, seenThrough_id] at hrun

/-- A rule that puts a part of the path where it expands a variable. -/
private def capturingRule : List Directive := [
  .rule {
    line := 1
    text := []
    pattern := Pattern.ofText? "^/(.*)$".toList false
    negated := false
    substitution := .target "/%\x7bHTTP_HOST\x7d/$1".toList
    flags := {} }]

private def forgingRequest : Facts where
  url := "/%\x7bHTTP_USER_AGENT\x7d".toList
  now := ⟨2000, 1, 1, 0, 0, 0⟩

private theorem ofFacts_agreeOn_userAgent (facts : Facts) (userAgent : Option Text) :
    (Environment.ofFacts facts).AgreeOn (fun name => name ≠ "HTTP_USER_AGENT".toList) id
      (Environment.ofFacts { facts with userAgent }) := by
  refine .of_builtIn ?_ rfl
  simp [Environment.builtIn, Value.text]

/-- A path in which a reference is written does not make a pass read the variable. -/
theorem ofDirectives_eq_of_mentioned_forged :
    (∀ name, Directive.Mentioned capturingRule name → ∀ url,
      (Environment.ofFacts forgingRequest).read name url =
        (Environment.ofFacts { forgingRequest with userAgent := some ['a'] }).read name url) ∧
    Report.ofDirectives capturingRule forgingRequest {} =
      Report.ofDirectives capturingRule { forgingRequest with userAgent := some ['a'] } {} := by
  have hmentions : ∀ d ∈ capturingRule, ¬ d.Mentions "HTTP_USER_AGENT".toList := by
    decide +kernel
  have hread : ∀ name, Directive.Mentioned capturingRule name → ∀ url,
      (Environment.ofFacts forgingRequest).read name url =
        (Environment.ofFacts { forgingRequest with userAgent := some ['a'] }).read name url := by
    rintro name ⟨d, hd, hname⟩ url
    have hne : name ≠ "HTTP_USER_AGENT".toList := by
      rintro rfl
      exact hmentions d hd hname
    exact ofFacts_agreeOn_userAgent forgingRequest (some ['a']) name hne url url rfl
  exact ⟨hread, (ofDirectives_eq_of_mentioned capturingRule forgingRequest
    { forgingRequest with userAgent := some ['a'] } {} rfl rfl hread).1⟩

end Reroute
