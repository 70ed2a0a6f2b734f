import Reroute.Proofs.Pass.Step
import Reroute.Proofs.Scan

/-!
# Which variables a visit reads

A visit expands one text at most: the test of a condition that is evaluated, or the target of a rule
that fires. It reads the variables that are referred to there. No other variable has any influence on
what comes of it, and a variable without a text is a fault only where it is read.
-/

namespace Reroute

open Pass

theorem Piece.exists_fault_of_mem {α : Type} {value : α → Except Fault Text}
    {pieces : List (Piece α)} {r : α} {fault : Fault} (hmem : .reference r ∈ pieces)
    (hvalue : value r = .error fault) : ∃ fault', expand value pieces = .error fault' := by
  cases hexpand : expand value pieces with
  | error fault' => exact ⟨fault', rfl⟩
  | ok text =>
      obtain ⟨first, hfirst⟩ := exists_expand_iff.mp ⟨text, hexpand⟩ r (mem_references.mpr hmem)
      rw [hvalue] at hfirst
      cases hfirst

namespace Directive

def Reads (d : Directive) (path : Text) (state : State) (name : Text) : Prop :=
  match d with
  | .condition c => c.isEvaluated state = true ∧ .reference name ∈ variablePieces c.subject
  | .rule r =>
    r.isTried state = true ∧
      (∃ groups, r.match? (Url.pathBelow state.url path) = .ok (some groups)) ∧
      r.flags.invalid = none ∧
      ∃ target, r.substitution = .target target ∧ .reference name ∈ variablePieces target

def resultAside (d : Directive) (path : Text) (state : State) :
    Except Fault (State × Option Course) :=
  (d.visit path state).map fun (state, course) => ({ state with environment := .empty }, course)

end Directive

variable {path : Text} {state : State} {name : Text} {env : Environment}

theorem Environment.expand_eq_of_not_mem {env env' : Environment} {url t : Text}
    (hname : .reference name ∉ variablePieces t)
    (henv : ∀ other, other ≠ name → env.read other url = env'.read other url) :
    env.expand url t = env'.expand url t := by
  refine Piece.expand_congr fun other hother => henv other ?_
  rintro rfl
  exact hname hother

/-! ### Conditions -/

theorem Condition.resultAside_eq {c : Condition}
    (hreads : ¬ (Directive.condition c).Reads path state name)
    (henv : ∀ other, other ≠ name →
      env.read other state.url = state.environment.read other state.url) :
    (Directive.condition c).resultAside path { state with environment := env } =
      (Directive.condition c).resultAside path state := by
  have hevaluated : c.isEvaluated { state with environment := env } = c.isEvaluated state := rfl
  unfold Directive.resultAside Directive.visit Condition.visit
  dsimp only
  rw [hevaluated]
  cases hstate : c.isEvaluated state with
  | false => rfl
  | true =>
      have hname : .reference name ∉ variablePieces c.subject :=
        fun hmem => hreads ⟨hstate, hmem⟩
      have hverdict : c.verdict { state with environment := env } = c.verdict state := by
        unfold Condition.verdict
        dsimp only
        rw [Environment.expand_eq_of_not_mem hname henv]
      rw [if_pos rfl, if_pos rfl, hverdict]
      cases c.verdict state <;> rfl

/-! ### Rules -/

namespace Rule

variable {r : Rule}

/-- What comes of a visit to a rule depends on variables only through the URL that the rule makes,
and on the changes that the rule itself asks for not at all. -/
theorem resultAside_eq (changes : List VariableFlag)
    (hurl : ∀ groups, r.isTried state = true →
      r.match? (Url.pathBelow state.url path) = .ok (some groups) → r.flags.invalid = none →
        r.newUrl (Url.pathBelow state.url path) groups { state with environment := env } =
          r.newUrl (Url.pathBelow state.url path) groups state) :
    (Directive.rule { r with flags := { r.flags with changes } }).resultAside path
        { state with environment := env } =
      (Directive.rule r).resultAside path state := by
  set r' : Rule := { r with flags := { r.flags with changes } }
  set state' : State := { state with environment := env }
  have htried : r'.isTried state' = r.isTried state := rfl
  unfold Directive.resultAside Directive.visit
  dsimp only
  cases hstate : r.isTried state with
  | false =>
      rw [visit_of_not_isTried (htried.trans hstate), visit_of_not_isTried hstate]
      unfold State.passOver
      simp only [Except.map, state']
      split_ifs <;> rfl
  | true =>
      rw [visit_of_isTried (htried.trans hstate), visit_of_isTried hstate, attempt_eq, attempt_eq]
      have hmatch : r'.match? (Url.pathBelow state'.url path) =
          r.match? (Url.pathBelow state.url path) := rfl
      rw [hmatch]
      cases hmatched : r.match? (Url.pathBelow state.url path) with
      | error fault => rfl
      | ok matched =>
          cases matched with
          | none => rfl
          | some groups =>
              have hinvalid : r'.flags.invalid = r.flags.invalid := rfl
              unfold fire
              dsimp only
              rw [hinvalid]
              cases hflags : r.flags.invalid with
              | some token => rfl
              | none =>
                  have hnewUrl := hurl groups hstate hmatched hflags
                  have hmade : r'.newUrl (Url.pathBelow state'.url path) groups state' =
                      r.newUrl (Url.pathBelow state.url path) groups state := hnewUrl
                  rw [hmade]
                  cases r.newUrl (Url.pathBelow state.url path) groups state with
                  | error fault => rfl
                  | ok url =>
                      simp only [Except.map, apply, r', state']
                      split_ifs <;> rfl

theorem newUrl_eq_of_not_mem {below : Text} {groups : Groups}
    (hname : ∀ target, r.substitution = .target target → .reference name ∉ variablePieces target)
    (henv : ∀ other, other ≠ name →
      env.read other state.url = state.environment.read other state.url) :
    r.newUrl below groups { state with environment := env } = r.newUrl below groups state := by
  unfold newUrl
  cases hsubstitution : r.substitution with
  | keep => rfl
  | target target =>
      dsimp only
      rw [Environment.expandAll, Environment.expandAll,
        Environment.expand_eq_of_not_mem (hname target hsubstitution) henv]

end Rule

/-! ### Directives -/

namespace Directive

variable {d : Directive}

theorem resultAside_eq_of_not_reads (hreads : ¬ d.Reads path state name)
    (henv : ∀ other, other ≠ name →
      env.read other state.url = state.environment.read other state.url) :
    d.resultAside path { state with environment := env } = d.resultAside path state := by
  cases d with
  | condition c => exact c.resultAside_eq hreads henv
  | rule r =>
      refine Rule.resultAside_eq (r := r) r.flags.changes fun groups htried hmatch hflags => ?_
      refine Rule.newUrl_eq_of_not_mem (fun target htarget hmem => hreads ?_) henv
      exact ⟨htried, ⟨groups, hmatch⟩, hflags, target, htarget, hmem⟩

theorem exists_fault_of_reads {fault : Fault} (hreads : d.Reads path state name)
    (hread : state.environment.read name state.url = .error fault) :
    ∃ fault', d.visit path state = .error fault' := by
  have hexpand : ∀ t, .reference name ∈ variablePieces t →
      ∃ fault', state.environment.expand state.url t = .error fault' :=
    fun t hmem => Piece.exists_fault_of_mem hmem hread
  cases d with
  | condition c =>
      obtain ⟨hevaluated, hmem⟩ := hreads
      obtain ⟨fault', hfault⟩ := hexpand _ hmem
      refine ⟨fault', ?_⟩
      rw [visit, Condition.visit, if_pos hevaluated, Condition.verdict, hfault]
      rfl
  | rule r =>
      obtain ⟨htried, ⟨groups, hmatch⟩, hflags, target, htarget, hmem⟩ := hreads
      obtain ⟨fault', hfault⟩ := hexpand _ hmem
      refine ⟨fault', ?_⟩
      rw [visit, Rule.visit_of_isTried htried, Rule.attempt_eq, hmatch]
      dsimp only
      rw [Rule.fire, hflags]
      dsimp only
      rw [Rule.newUrl, htarget]
      dsimp only
      rw [Environment.expandAll, hfault]
      rfl

end Directive

end Reroute
