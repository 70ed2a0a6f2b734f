import Mathlib.Data.List.TakeWhile
import Reroute.Proofs.Rules.LineEnds
import Reroute.Settings

/-!
# Settings without anything to run

Rules that are nothing but white space are not read at all. Had they been read, they would have been
found in order, and no directive would have come of them. So only the switch decides whether settings
do what their rules say.
-/

namespace Reroute

/-! ### Blank text -/

namespace Text

theorem trimEnd_eq_nil_iff {t : Text} : t.trimEnd = [] ↔ ∀ c ∈ t, isBlank c := by
  simp [trimEnd, List.dropWhile_eq_nil_iff]

theorem trim_eq_nil_iff {t : Text} : t.trim = [] ↔ ∀ c ∈ t, isBlank c := by
  rw [trim, trimEnd_eq_nil_iff]
  constructor
  · intro h c hc
    rw [← List.takeWhile_append_dropWhile (p := isBlank) (l := t), List.mem_append] at hc
    rcases hc with hfront | hrest
    · exact List.mem_takeWhile_imp hfront
    · exact h c hrest
  · intro h c hc
    exact h c ((List.dropWhile_sublist isBlank).mem hc)

end Text

/-! ### Blank rules -/

theorem Line.active_of_blank {t : Text} (ht : ∀ c ∈ t, isBlank c) : active t = [] := by
  rw [active, List.filter_eq_nil_iff]
  intro line hline
  have htrim : line.trim = [] :=
    Text.trim_eq_nil_iff.mpr fun c hc => ht c (mem_of_mem_split hline hc)
  rw [categoryOf, htrim]
  decide

namespace RuleSet

theorem ofText_of_blank {t : Text} (ht : ∀ c ∈ t, isBlank c) :
    ∃ rules, ofText t = .ok rules ∧ rules.directives = [] := by
  have hempty : Source.ofText [] = .ok { lines := [], statements := [] } := rfl
  obtain ⟨source, hsource, hsame⟩ :=
    Source.exists_ofText_of_active_eq hempty (Line.active_of_blank ht)
  have hnone : source.statements = [] := by simpa using hsame
  refine ⟨ofSource source, ?_, by rw [ofSource, hnone, List.map_nil]⟩
  rw [ofText, hsource]
  rfl

theorem run_of_directives_eq_nil {rules : RuleSet} (hnone : rules.directives = []) (facts : Facts)
    (options : Options) : rules.run facts options = .ok .untouched := by
  rw [run, report_of_directives_eq_nil hnone]
  rfl

end RuleSet

/-! ### The switch -/

namespace Settings

/-- Runs the rules for a request, blank ones included, if the settings are switched on. -/
def runAnew (settings : Settings) (facts : Facts) : Except Failure Outcome :=
  if settings.enabled then do (← RuleSet.read settings.rules).run facts settings.options
  else .ok .untouched

/-- **Only the switch decides.** Blank rules that are passed over lead a request nowhere else than if
they were run. -/
theorem run_eq_runAnew (settings : Settings) (facts : Facts) :
    settings.run facts = settings.runAnew facts := by
  unfold run runAnew isActive
  cases settings.enabled with
  | false => rfl
  | true =>
      by_cases hblank : settings.rules.trim = []
      · -- No line of blank rules holds a statement, so that the pass has nothing to visit.
        obtain ⟨rules, hread, hnone⟩ :=
          RuleSet.ofText_of_blank (Text.trim_eq_nil_iff.mp hblank)
        have hrun := RuleSet.run_of_directives_eq_nil hnone facts settings.options
        simp [hblank, RuleSet.read, hread, Except.mapError, bind, Except.bind, hrun]
      · simp [hblank]

theorem outcome_eq_runAnew (settings : Settings) (facts : Facts) :
    settings.outcome facts = (settings.runAnew facts).toOption.getD .untouched := by
  rw [outcome, run_eq_runAnew]
  cases settings.runAnew facts <;> rfl

end Settings

end Reroute
