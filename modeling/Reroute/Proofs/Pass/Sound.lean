import Reroute.Proofs.Pass.Changes
import Reroute.Proofs.Pass.Faults

/-!
# Rules that cannot fail

A fault comes from a pattern or a flag that is of no use, from a variable without a text, or from a
group that a pattern does not have. Directives can be checked for all of these beforehand, knowing
nothing of a request but which variables it begins with: no rule changes a variable that a condition
reads, so each of them keeps its text throughout a pass, and a match has the groups of its pattern
whatever it was found in.
-/

namespace Reroute

open Pass

/-- A condition that can be evaluated for every request that begins with the same variables. -/
structure Condition.Sound (facts : Facts) (c : Condition) : Prop where
  criterion : c.criterion.isSome = true
  subject : ∀ name, .reference name ∈ variablePieces c.subject →
    (Environment.ofFacts facts).contains name = true

structure Rule.Sound (facts : Facts) (r : Rule) : Prop where
  pattern : r.pattern.isSome = true
  invalid : r.flags.invalid = none
  changes : ∀ flag ∈ r.flags.changes, (Environment.ofFacts facts).contains flag.name = false
  percent : ∀ target, r.substitution = .target target → '%' ∉ target
  group : ∀ target pattern, r.substitution = .target target → r.pattern = some pattern →
    ∀ digit, Unicode.Digit.isDigit digit = true → ['$', digit] <:+: target →
      Unicode.Digit.asciiValue digit < pattern.groupCount

def Directive.Sound (facts : Facts) : Directive → Prop
  | .condition c => c.Sound facts
  | .rule r => r.Sound facts

variable {directives : List Directive} {facts : Facts} {path : Text} {state : State}

/-! ### The check -/

theorem Condition.sound_iff {c : Condition} :
    c.Sound facts ↔
      c.criterion.isSome = true ∧ ∀ name ∈ Piece.references (variablePieces c.subject),
        (Environment.ofFacts facts).contains name = true := by
  simp only [Piece.mem_references]
  constructor
  · intro h
    exact ⟨h.criterion, h.subject⟩
  · rintro ⟨hcriterion, hsubject⟩
    exact ⟨hcriterion, hsubject⟩

theorem Directive.expanded?_rule {r : Rule} {target : Text} :
    (Directive.rule r).expanded? = some target ↔ r.substitution = .target target := by
  cases hsubstitution : r.substitution <;> simp [expanded?, hsubstitution]

theorem Rule.sound_iff {r : Rule} :
    r.Sound facts ↔
      r.pattern.isSome = true ∧ r.flags.invalid = none ∧
        (∀ flag ∈ r.flags.changes, (Environment.ofFacts facts).contains flag.name = false) ∧
        ∀ target ∈ (Directive.rule r).expanded?, '%' ∉ target ∧ ∀ pattern ∈ r.pattern,
          ∀ index ∈ Piece.references (groupPieces '$' target), index < pattern.groupCount := by
  have hdollar : Unicode.Digit.isDigit '$' = false := by decide
  simp only [Option.mem_def, Directive.expanded?_rule, Piece.mem_references,
    reference_mem_groupPieces_iff hdollar]
  constructor
  · intro h
    refine ⟨h.pattern, h.invalid, h.changes, fun target htarget => ⟨h.percent target htarget, ?_⟩⟩
    rintro pattern hpattern index ⟨digit, hdigit, hplace, rfl⟩
    exact h.group target pattern htarget hpattern digit hdigit hplace
  · rintro ⟨hpattern, hinvalid, hchanges, htarget⟩
    refine ⟨hpattern, hinvalid, hchanges, fun target h => (htarget target h).1, ?_⟩
    intro target pattern h hpattern digit hdigit hplace
    exact (htarget target h).2 pattern hpattern _ ⟨digit, hdigit, hplace, rfl⟩

instance (facts : Facts) (d : Directive) : Decidable (d.Sound facts) :=
  match d with
  | .condition _ => decidable_of_iff' _ Condition.sound_iff
  | .rule _ => decidable_of_iff' _ Rule.sound_iff

/-! ### Texts -/

theorem Groups.exists_read {groups : Groups} {index : Nat} (h : index < groups.length)
    (source : GroupSource) : ∃ text, read source (some groups) index = .ok text := by
  refine ⟨groups[index].getD [], ?_⟩
  simp [read, value?, List.getElem?_eq_getElem h]

/-- A rule fires with the groups of its pattern, whether it is negated or not. -/
theorem Rule.FiresOn.length_eq {r : Rule} {pattern : Pattern} {groups : Groups}
    (hpattern : r.pattern = some pattern) (h : r.FiresOn path groups) :
    groups.length = pattern.groupCount := by
  obtain ⟨pattern', hpattern', hfires⟩ := h
  obtain rfl : pattern = pattern' := Option.some.inj (hpattern.symm.trans hpattern')
  rcases hfires with ⟨-, hfound⟩ | ⟨-, -, rfl⟩
  · exact Pattern.length_of_groups? hfound
  · exact List.length_replicate

theorem Environment.expandAll_of_not_mem {env : Environment} {url t : Text}
    {condition : Option Groups} {groups : Groups} (h : '%' ∉ t) :
    env.expandAll url condition groups t = Groups.expand .rule (some groups) t := by
  have hvariables : env.expand url t = .ok t := by
    rw [expand, variablePieces_of_not_mem h, Piece.expand_char]
  have hcondition : Groups.expand .condition condition t = .ok t := by
    rw [Groups.expand, GroupSource.sigil, groupPieces_of_not_mem h, Piece.expand_char]
  rw [expandAll, hvariables]
  simp [hcondition, bind, Except.bind]

/-! ### One visit -/

theorem Condition.Sound.not_fails {c : Condition} {fault : Fault} (h : c.Sound facts)
    (henv : ∀ name, (Environment.ofFacts facts).contains name = true →
      ∃ text, state.environment.read name state.url = .ok text) : ¬ c.Fails state fault := by
  rintro (⟨hnames, -, hread⟩ | ⟨-, hcriterion⟩)
  · have hmem := Piece.mem_references.mp (hnames ▸ List.mem_append_right _ List.mem_cons_self)
    obtain ⟨text, htext⟩ := henv _ (h.subject _ hmem)
    rw [htext] at hread
    cases hread
  · simpa [hcriterion] using h.criterion

theorem Rule.Sound.exists_expanded {r : Rule} {groups : Groups} {target : Text}
    (h : r.Sound facts) (hfires : r.FiresOn path groups)
    (htarget : r.substitution = .target target) (env : Environment) (url : Text)
    (condition : Option Groups) :
    ∃ expanded, env.expandAll url condition groups target = .ok expanded := by
  rw [Environment.expandAll_of_not_mem (h.percent target htarget)]
  refine Piece.exists_expand_iff.mpr fun index hindex => Groups.exists_read ?_ _
  obtain ⟨digit, hdigit, hplace, rfl⟩ :=
    (reference_mem_groupPieces_iff (by decide)).mp (Piece.mem_references.mp hindex)
  obtain ⟨pattern, hpattern⟩ := Option.isSome_iff_exists.mp h.pattern
  -- Which groups took part does not matter: one that took none has the empty text.
  rw [hfires.length_eq hpattern]
  exact h.group target pattern htarget hpattern digit hdigit hplace

theorem Rule.Sound.not_fails {r : Rule} {fault : Fault} (h : r.Sound facts) :
    ¬ r.Fails path state fault := by
  rintro (hpattern | ⟨-, hflag⟩ | ⟨hfires, -, htarget, hexpand⟩)
  · simpa [hpattern] using h.pattern
  · rw [h.invalid] at hflag
    cases hflag
  · obtain ⟨expanded, hexpanded⟩ :=
      h.exists_expanded hfires htarget state.environment state.url state.groups
    rw [hexpanded] at hexpand
    cases hexpand

theorem Directive.Sound.not_fails {d : Directive} {fault : Fault} (h : d.Sound facts)
    (henv : ∀ name, (Environment.ofFacts facts).contains name = true →
      ∃ text, state.environment.read name state.url = .ok text) : ¬ d.Fails path state fault := by
  intro hfails
  cases d with
  | condition c => exact Condition.Sound.not_fails h henv hfails.2
  | rule r => exact Rule.Sound.not_fails h hfails.2

/-! ### Whole passes -/

namespace Pass

variable {c : Config} {visits : List Visit}

/-- Sound rules leave alone the variables that a request begins with. -/
theorem History.exists_read_of_contains (hsound : ∀ d ∈ directives, d.Sound facts)
    (hvisits : Reaches directives facts visits c) {name : Text}
    (hname : (Environment.ofFacts facts).contains name = true) (url : Text) :
    ∃ text, c.state.environment.read name url = .ok text := by
  have hunchanged : ∀ r, .rule r ∈ directives → ∀ flag ∈ r.flags.changes, flag.name ≠ name := by
    rintro r hr flag hflag rfl
    have hfree := (hsound _ hr).changes flag hflag
    rw [hname] at hfree
    cases hfree
  rw [hvisits.read_eq_of_unchanged hunchanged]
  exact Environment.read_ofFacts_of_contains hname url

theorem History.step_ne_error (hsound : ∀ d ∈ directives, d.Sound facts)
    (hvisits : Reaches directives facts visits c) (e : Evaluation) :
    step directives facts.applicationPath c ≠ some (.error e) := by
  intro hfault
  obtain ⟨d, ahead, hrest, -, -, -, hfails⟩ := step_eq_error_iff.mp hfault
  have hd : d.Sound facts := hsound d (hvisits.mem_of_rest (List.suffix_refl _) hrest)
  exact hd.not_fails (fun name hname => hvisits.exists_read_of_contains hsound hname _) hfails

end Pass

/-- **Sound rules do not fail.** A pass of sound rules comes to its end or spends its budget, whatever
stands in the request: the text of a group is not read for references, and a negated rule has as
many groups as one that matches. -/
theorem RuleSet.report_of_sound (rules : RuleSet) (facts : Facts)
    (hsound : ∀ d ∈ rules.directives, d.Sound facts) (options : Options) :
    (∃ report, rules.report facts options = .ok report) ∨
      ∃ processed url, rules.report facts options = .error (.unsettled processed url) := by
  obtain ⟨_, _, _, _, hok⟩ | ⟨_, _, e, hvisits, hfault, _⟩ | hunsettled :=
    Report.ofDirectives_cases rules.directives facts options
  · exact .inl ⟨_, hok⟩
  · exact absurd hfault (hvisits.step_ne_error hsound e)
  · exact .inr hunsettled

private def soundRules : RuleSet where
  lines := []
  directives := [
    .condition {
      line := 1
      text := []
      subject := "%\x7bQUERY_STRING\x7d%9".toList
      criterion := some { comparand := .equal "q%9".toList, negated := false, noCase := false }
      flags := {} },
    .rule {
      line := 2
      text := []
      pattern := some {
        groupCount := 2
        program := .ofExpr (.concat [.text "/a".toList, .capture 1 (.text "$9%9".toList)]) }
      negated := false
      substitution := .target "/b$1$".toList
      flags := { changes := [.assign "K".toList "$7%7".toList, .remove "L".toList] } },
    .rule {
      line := 3
      text := []
      pattern := some { groupCount := 2, program := .ofExpr (.capture 1 (.text "c".toList)) }
      negated := true
      substitution := .target "/$0$1d".toList
      flags := {} }]

private def soundRequest : Facts where
  url := "/a$9%9?q".toList
  now := ⟨2000, 1, 1, 0, 0, 0⟩

/-- The first rule brings a dollar and a percent sign into the URL, and the second, which is negated,
refers to groups that took no part. -/
theorem RuleSet.report_of_sound_of_negated :
    (∀ d ∈ soundRules.directives, d.Sound soundRequest) ∧
      ((∃ report, soundRules.report soundRequest {} = .ok report) ∨
        ∃ processed url, soundRules.report soundRequest {} = .error (.unsettled processed url)) ∧
      (soundRules.report soundRequest {}).toOption.map (·.fired) = some [2, 3] := by
  have hsound : ∀ d ∈ soundRules.directives, d.Sound soundRequest := by decide
  exact ⟨hsound, report_of_sound soundRules soundRequest hsound {}, rfl⟩

end Reroute
