import Mathlib.Data.List.Range
import Reroute.Rules.RuleSet

/-!
# The lines that directives stand on

Lines are numbered in their order, and reading a text passes over lines but never goes back. So no
two directives of a rule set stand on one line, and a directive further down has a larger number.
-/

namespace Reroute

theorem Line.map_fst_numbered (t : Text) :
    (numbered t).map Prod.fst = List.range' 1 (split t).length := by
  have hindices : (split t).zipIdx.map Prod.snd = List.range' 0 (split t).length :=
    List.zipIdx_map_snd 0 (split t)
  calc (numbered t).map Prod.fst = ((split t).zipIdx.map Prod.snd).map (1 + ·) := by
        rw [numbered, List.map_map, List.map_map]
        exact List.map_congr_left fun line _ => Nat.add_comm line.2 1
    _ = List.range' 1 (split t).length := by rw [hindices, List.map_add_range']

theorem Line.numbered_pairwise (t : Text) : ((numbered t).map Prod.fst).Pairwise (· < ·) := by
  rw [map_fst_numbered]
  exact List.pairwise_lt_range' 1

namespace Source

theorem statements_sublist {lines : List (Nat × Text)} {source : Source}
    (h : ofLines lines = .ok source) :
    (source.statements.map Statement.line).Sublist (lines.map Prod.fst) := by
  induction lines generalizing source with
  | nil =>
      simp only [ofLines, Except.ok.injEq] at h
      subst h
      exact .slnil
  | cons line rest ih =>
      obtain ⟨number, text⟩ := line
      cases hrest : ofLines rest with
      | error e =>
          cases hreading : Reading.ofText text <;> simp [ofLines, hreading, hrest] at h
      | ok source' =>
          have hsub := ih hrest
          cases hreading : Reading.ofText text with
          | malformed => simp [ofLines, hreading] at h
          | statement kind fields =>
              simp only [ofLines, hreading, hrest, Except.ok.injEq] at h
              subst h
              exact hsub.cons_cons number
          | blank | comment | unrecognized =>
              simp only [ofLines, hreading, hrest, Except.ok.injEq] at h
              subst h
              exact hsub.cons number

end Source

theorem Directive.line_ofStatement (s : Statement) : (ofStatement s).line = s.line := by
  unfold ofStatement
  cases s.kind <;> rfl

namespace RuleSet

variable {t : Text} {rules : RuleSet}

theorem exists_source (h : ofText t = .ok rules) :
    ∃ source, Source.ofText t = .ok source ∧ ofSource source = rules := by
  unfold ofText at h
  cases hsource : Source.ofText t with
  | error e => simp [hsource, Except.map] at h
  | ok source => exact ⟨source, rfl, by simpa [hsource, Except.map] using h⟩

theorem directives_pairwise (h : ofText t = .ok rules) :
    rules.directives.Pairwise fun d e => d.line < e.line := by
  obtain ⟨source, hsource, rfl⟩ := exists_source h
  have hstatements := (Line.numbered_pairwise t).sublist (Source.statements_sublist hsource)
  rw [List.pairwise_map] at hstatements
  rw [ofSource, List.pairwise_map]
  refine hstatements.imp fun hlt => ?_
  rwa [Directive.line_ofStatement, Directive.line_ofStatement]

end RuleSet

end Reroute
