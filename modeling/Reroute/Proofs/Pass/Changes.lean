import Reroute.Proofs.Agreement
import Reroute.Proofs.Pass.Firing
import Reroute.Proofs.Pass.Reading
import Reroute.Proofs.Rules.Flags
import Reroute.Proofs.Variables

/-!
# What a variable reads as

The environment of a pass is that of the request with all changes applied that rules have made so
far, in the order in which they fired. So the last change of a variable decides what it reads as,
with the groups that were at hand when its rule fired, and a variable that no rule has changed reads
as it does for the request.
-/

namespace Reroute

def VariableFlag.name : VariableFlag → Text
  | .assign name _ => name
  | .remove name => name

namespace Pass

/-- A change of a variable, with the groups that were at hand when its rule fired. -/
structure Change where
  flag : VariableFlag
  condition : Option Groups
  rule : Groups

namespace Change

def name (change : Change) : Text := change.flag.name

def apply (env : Environment) (change : Change) : Environment :=
  change.flag.apply change.condition change.rule env

def text (change : Change) : Except Fault Text :=
  match change.flag with
  | .assign _ value => do
    let value ← Groups.expand .condition change.condition value
    Groups.expand .rule (some change.rule) value
  | .remove name => .error (.undefinedVariable name)

end Change

/-- The changes that a firing makes. A rule that refuses the request makes none. -/
def Firing.changes (f : Firing) : List Change :=
  if f.rule.flags.forbidden || f.rule.flags.gone then []
  else f.rule.flags.changes.map fun flag =>
    { flag, condition := f.state.groups, rule := f.groups }

def changes (path : Text) (visits : List Visit) : List Change :=
  (firings path visits).flatMap Firing.changes

variable {directives : List Directive} {facts : Facts} {path : Text} {c c' : Config}
  {visits : List Visit}

/-! ### Changes one after the other -/

theorem Change.read_apply (change : Change) (env : Environment) (name url : Text) :
    (change.apply env).read name url =
      if name = change.name then change.text else env.read name url := by
  obtain ⟨flag, condition, rule⟩ := change
  cases flag with
  | assign key value => exact env.read_insert key name url _
  | remove key =>
      change (env.erase key).read name url =
        if name = key then .error (.undefinedVariable key) else env.read name url
      rw [Environment.read_erase]
      by_cases hname : name = key
      · rw [if_pos hname, if_pos hname, hname]
      · rw [if_neg hname, if_neg hname]

/-- The last change of a variable decides what it reads as. -/
theorem read_foldl_apply (changes : List Change) (env : Environment) (name url : Text) :
    (changes.foldl Change.apply env).read name url =
      match (changes.filter (·.name = name)).getLast? with
      | some change => change.text
      | none => env.read name url := by
  induction changes using List.reverseRecOn with
  | nil => rfl
  | append_singleton changes change ih =>
      rw [List.foldl_append, List.foldl_cons, List.foldl_nil, Change.read_apply, List.filter_append]
      by_cases hname : change.name = name
      · simp [hname]
      · simp [hname, Ne.symm hname, ih]

theorem Firing.after_environment (f : Firing) (url : Text) :
    (f.after url).1.environment = f.changes.foldl Change.apply f.state.environment := by
  rw [after, Rule.apply_environment, Firing.changes]
  split_ifs
  · rfl
  · rw [List.foldl_map]
    rfl

theorem History.environment_eq (hvisits : History directives path c visits c') :
    c'.state.environment = (changes path visits).foldl Change.apply c.state.environment := by
  refine hvisits.firing_invariant
    (P := fun fs state => state.environment =
      (fs.flatMap Firing.changes).foldl Change.apply c.state.environment) rfl ?_ ?_
  · intro fs s t hs hsame
    rw [hsame.environment, hs]
  · intro fs f url hf _
    rw [f.after_environment, hf, List.flatMap_append, List.flatMap_singleton, List.foldl_append]

theorem History.exists_rule_of_mem_changes {change : Change}
    (hvisits : History directives path c visits c') (hrest : c.rest <:+ directives)
    (hchange : change ∈ changes path visits) :
    ∃ r, .rule r ∈ directives ∧ change.flag ∈ r.flags.changes := by
  obtain ⟨f, hf, hchange⟩ := List.mem_flatMap.mp hchange
  obtain ⟨v, hv, hfiring⟩ := List.mem_filterMap.mp hf
  refine ⟨f.rule, ?_, ?_⟩
  · rw [← directive_of_firing? hfiring]
    exact hvisits.directive_mem hrest v hv
  · unfold Firing.changes at hchange
    split_ifs at hchange
    · cases hchange
    · obtain ⟨flag, hflag, rfl⟩ := List.mem_map.mp hchange
      exact hflag

theorem History.read_eq_of_not_mem_changes {name : Text} (hvisits : Reaches directives facts visits c)
    (hname : name ∉ (changes facts.applicationPath visits).map Change.name) (url : Text) :
    c.state.environment.read name url = (Environment.ofFacts facts).read name url := by
  have hnone : (changes facts.applicationPath visits).filter (·.name = name) = [] := by
    simpa using hname
  rw [hvisits.environment_eq, read_foldl_apply, hnone]
  rfl

theorem History.read_eq_of_unchanged {name : Text} (hvisits : Reaches directives facts visits c)
    (hname : ∀ r, .rule r ∈ directives → ∀ flag ∈ r.flags.changes, flag.name ≠ name) (url : Text) :
    c.state.environment.read name url = (Environment.ofFacts facts).read name url := by
  refine hvisits.read_eq_of_not_mem_changes (fun hmem => ?_) url
  obtain ⟨change, hchange, hkey⟩ := List.mem_map.mp hmem
  obtain ⟨r, hr, hflag⟩ := hvisits.exists_rule_of_mem_changes (List.suffix_refl _) hchange
  exact hname r hr _ hflag hkey

/-- **The last change of a variable decides what it reads as.** As long as no rule has changed it, a
further variable of the request has its text, the query string is that of the URL at which it is
read, `REQUEST_URI` is the URL of the request, the other built-in variables are fixed, and there is
nothing else. After that the last rule that fired and changed it counts, and of its flags the last:
what it read as then it reads as ever after. A rule that fires makes the same of the request
whatever changes it asks for, and a variable without a text is a fault only where it is read. -/
theorem read_eq_last_change (hvisits : Reaches directives facts visits c) (name : Text) :
    (name ∉ (changes facts.applicationPath visits).map Change.name → ∀ url,
      (∀ text, facts.extra.reverse.lookup name = some text →
        c.state.environment.read name url = .ok text) ∧
      (facts.extra.reverse.lookup name = none →
        (name = "QUERY_STRING".toList →
          c.state.environment.read name url = .ok (Url.query url)) ∧
        (name = "REQUEST_URI".toList → c.state.environment.read name url = .ok facts.url) ∧
        (∀ key value, (key, value) ∈ Environment.builtIn facts → key ≠ "QUERY_STRING" →
          name = key.toList →
            ∃ text, value = .fixed text ∧ c.state.environment.read name url = .ok text) ∧
        ((∀ entry ∈ Environment.builtIn facts, entry.1.toList ≠ name) →
          c.state.environment.read name url = .error (.undefinedVariable name)))) ∧
    (∀ change,
      ((changes facts.applicationPath visits).filter (·.name = name)).getLast? = some change →
        ∀ url, c.state.environment.read name url = change.text) ∧
    (∀ tokens, (RuleFlags.ofTokens tokens).changes = tokens.filterMap FlagToken.change?) ∧
    (∀ (r : Rule) (others : List VariableFlag),
      (Directive.rule { r with flags := { r.flags with changes := others } }).resultAside
        facts.applicationPath c.state =
          (Directive.rule r).resultAside facts.applicationPath c.state) ∧
    ∀ d : Directive,
      (¬ d.Reads facts.applicationPath c.state name → ∀ value,
        d.resultAside facts.applicationPath
            { c.state with environment := c.state.environment.insert name value } =
          d.resultAside facts.applicationPath c.state) ∧
      (d.Reads facts.applicationPath c.state name → ∀ fault,
        c.state.environment.read name c.state.url = .error fault →
          ∃ fault', d.visit facts.applicationPath c.state = .error fault') := by
  refine ⟨?_, ?_, RuleFlags.changes_ofTokens, ?_, ?_⟩
  · intro hunchanged url
    rw [hvisits.read_eq_of_not_mem_changes hunchanged]
    refine ⟨?_, fun hextra => ⟨?_, ?_, ?_, ?_⟩⟩
    · intro text hextra
      exact Environment.read_of_value? (Environment.value?_ofFacts_of_extra hextra) url
    · rintro rfl
      have hmem : ("QUERY_STRING", Value.currentQuery) ∈ Environment.builtIn facts := by
        simp [Environment.builtIn]
      exact Environment.read_of_value? (Environment.value?_ofFacts_of_builtIn hextra hmem) url
    · rintro rfl
      have hmem : ("REQUEST_URI", Value.fixed facts.url) ∈ Environment.builtIn facts := by
        simp [Environment.builtIn]
      exact Environment.read_of_value? (Environment.value?_ofFacts_of_builtIn hextra hmem) url
    · rintro key value hmem hkey rfl
      obtain ⟨text, rfl⟩ := Environment.fixed_of_mem_builtIn hmem hkey
      refine ⟨text, rfl, ?_⟩
      exact Environment.read_of_value? (Environment.value?_ofFacts_of_builtIn hextra hmem) url
    · intro hunknown
      rw [Environment.read, Environment.value?_ofFacts_of_unknown hextra hunknown]
  · intro change hlast url
    rw [hvisits.environment_eq, read_foldl_apply, hlast]
  · intro r others
    exact Rule.resultAside_eq others fun _ _ _ _ => rfl
  · intro d
    refine ⟨fun hreads value => ?_, fun hreads fault => Directive.exists_fault_of_reads hreads⟩
    refine Directive.resultAside_eq_of_not_reads hreads fun other hother => ?_
    rw [Environment.read_insert, if_neg hother]

/-- A rule that changes three variables and, when the pass begins anew, one of them again. -/
private def changingRules : List Directive := [
  .rule {
    line := 1
    text := []
    pattern := some {
      groupCount := 2
      program := .ofExpr (.concat [.capture 1 (.text "a".toList), .look .stop]) }
    negated := false
    substitution := .target "/b?q".toList
    flags := {
      changes := [
        .assign ['X'] "$1".toList, .remove "HTTP_HOST".toList, .assign ['Y'] "$7".toList]
      next := true } },
  .rule {
    line := 2
    text := []
    pattern := some { groupCount := 1, program := .ofExpr (.text "b".toList) }
    negated := false
    substitution := .keep
    flags := { changes := [.assign ['Z'] "$0".toList, .assign ['Z'] "%1".toList] } }]

private def changingRequest : Facts where
  url := "/a?p".toList
  host := some "h".toList
  now := ⟨2000, 1, 1, 0, 0, 0⟩
  extra := [("W".toList, "w".toList)]

/-- After the second firing the first one is still what `X` and `Y` refer to, although `Y` has no
text. -/
theorem read_eq_last_change_of_restart :
    ∃ visits c, Reaches changingRules changingRequest visits c ∧ c.restarts = 1 ∧
      c.state.environment.read ['X'] [] = .ok ['a'] ∧
      c.state.environment.read ['Y'] [] = .error (.missingGroup .rule 7) ∧
      c.state.environment.read ['Z'] [] = .error (.missingGroup .condition 1) ∧
      c.state.environment.read "HTTP_HOST".toList [] =
        .error (.undefinedVariable "HTTP_HOST".toList) ∧
      c.state.environment.read "REQUEST_URI".toList [] = .ok "/a?p".toList ∧
      c.state.environment.read ['W'] [] = .ok ['w'] := by
  have hvisits : Reaches changingRules changingRequest _ _ :=
    .snoc (.snoc (.snoc .nil rfl rfl) rfl rfl) rfl rfl
  have hnames : ∀ name ∈ ["REQUEST_URI".toList, ['W']],
      name ∉ [['X'], "HTTP_HOST".toList, ['Y'], ['Z'], ['Z']] := by decide
  refine ⟨_, _, hvisits, rfl, ?_, ?_, ?_, ?_, ?_, ?_⟩
  · exact (read_eq_last_change hvisits ['X']).2.1 _ rfl []
  · exact (read_eq_last_change hvisits ['Y']).2.1 _ rfl []
  · exact (read_eq_last_change hvisits ['Z']).2.1 _ rfl []
  · exact (read_eq_last_change hvisits "HTTP_HOST".toList).2.1 _ rfl []
  · have hread := (read_eq_last_change hvisits "REQUEST_URI".toList).1
    exact ((hread (hnames _ (by simp)) []).2 rfl).2.1 rfl
  · have hread := (read_eq_last_change hvisits ['W']).1
    exact (hread (hnames _ (by simp)) []).1 _ rfl

end Pass

end Reroute
