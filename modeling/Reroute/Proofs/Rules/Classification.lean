import Reroute.Proofs.Rules.InertLines

/-!
# Lines as they are shown and as they are read

The author of a rule text is shown all of its lines with their categories, and a pass is given the
conditions and rules that are read from it. Nothing but the reading of a single line is common to
the two. They agree all the same: a text is refused if a malformed line is shown, and for the first
of them; otherwise the lines shown as conditions and rules are what the directives stand on.
-/

namespace Reroute

def Directive.toLine : Directive → Line
  | .condition c => { number := c.line, text := c.text, category := .condition }
  | .rule r => { number := r.line, text := r.text, category := .rule }

theorem Directive.toLine_ofStatement (s : Statement) : (ofStatement s).toLine = s.toLine := by
  obtain ⟨kind, line, text, fields⟩ := s
  cases kind <;> rfl

namespace Source

theorem ofLines_eq_error {lines : List (Nat × Text)} {line : Nat × Text}
    (h : lines.find? (fun line => Reading.ofText line.2 = .malformed) = some line) :
    ofLines lines = .error { line := line.1, text := line.2 } := by
  induction lines with
  | nil => cases h
  | cons first lines ih =>
      obtain ⟨number, text⟩ := first
      by_cases hmalformed : Reading.ofText text = .malformed
      · rw [List.find?_cons_of_pos (by simpa using hmalformed), Option.some.injEq] at h
        subst h
        simp [ofLines, hmalformed]
      · rw [List.find?_cons_of_neg (by simpa using hmalformed)] at h
        cases hreading : Reading.ofText text with
        | malformed => exact absurd hreading hmalformed
        | blank | comment | unrecognized | statement => simp [ofLines, hreading, ih h]

end Source

namespace Line

theorem find?_ofText (t : Text) :
    (ofText t).find? (·.category = .malformed) =
      ((numbered t).find? fun line => Reading.ofText line.2 = .malformed).map
        fun line => { number := line.1, text := line.2, category := .malformed } := by
  have hcategory : (fun line : Nat × Text =>
      decide ((Reading.ofText line.2).category = .malformed)) =
        fun line => decide (Reading.ofText line.2 = .malformed) := by
    funext line
    rw [decide_eq_decide]
    exact Reading.category_eq_malformed_iff
  rw [ofText, List.find?_map, Function.comp_def]
  dsimp only
  rw [hcategory]
  cases hfind : (numbered t).find? fun line => Reading.ofText line.2 = .malformed with
  | none => rfl
  | some line =>
      have hmalformed : Reading.ofText line.2 = .malformed := by
        simpa using List.find?_some hfind
      simp [hmalformed, Reading.category]

end Line

namespace RuleSet

variable {t : Text} {source : Source}

theorem map_toLine_directives (h : Source.ofText t = .ok source) :
    (ofSource source).directives.map Directive.toLine = (ofSource source).statementLines := by
  rw [statementLines_ofSource h, ofSource, List.map_map]
  exact List.map_congr_left fun s _ => Directive.toLine_ofStatement s

theorem ruleCount_add_conditionCount (rules : RuleSet) :
    rules.ruleCount + rules.conditionCount = rules.statementLines.length := by
  rw [ruleCount, conditionCount, count, count, statementLines, ← List.countP_eq_length_filter]
  induction rules.lines with
  | nil => rfl
  | cons line lines ih =>
      have hkinds : (if decide (line.category = .rule) then 1 else 0) +
          (if decide (line.category = .condition) then 1 else 0) =
            if line.category.isStatement then 1 else 0 := by
        cases line.category <;> rfl
      rw [List.countP_cons, List.countP_cons, List.countP_cons]
      omega

/-- **What is read of a text is what is shown of it.** A text is refused if one of its lines is shown
as malformed, and the first such line is what it is refused for. Otherwise it is read; its lines are
the lines that are shown, and its statements are those of them that are shown as conditions and rules,
in the same order. A directive is made of each, so that the counts of the two kinds add up to the
number of directives, and there is nothing to do if both are zero. -/
theorem ofText_agrees_with_lines (t : Text) :
    ((∃ e, Source.ofText t = .error e) ↔ ∃ line ∈ Line.ofText t, line.category = .malformed) ∧
    (∀ line, (Line.ofText t).find? (·.category = .malformed) = some line →
      Source.ofText t = .error { line := line.number, text := line.text } ∧
        ofText t = .error { line := line.number, text := line.text }) ∧
    ((∀ line ∈ Line.ofText t, line.category ≠ .malformed) →
      ∃ source rules, Source.ofText t = .ok source ∧ ofText t = .ok rules ∧
        source.lines = Line.ofText t ∧
        source.statements.map Statement.toLine =
          (Line.ofText t).filter (·.category.isStatement) ∧
        rules.lines = Line.ofText t ∧
        rules.directives.map Directive.toLine =
          (Line.ofText t).filter (·.category.isStatement) ∧
        rules.ruleCount + rules.conditionCount = rules.directives.length ∧
        (rules.isEmpty = true ↔ rules.ruleCount = 0 ∧ rules.conditionCount = 0)) := by
  have hrefused : ∀ line, (Line.ofText t).find? (·.category = .malformed) = some line →
      Source.ofText t = .error { line := line.number, text := line.text } := by
    intro line hline
    rw [Line.find?_ofText, Option.map_eq_some_iff] at hline
    obtain ⟨read, hread, rfl⟩ := hline
    exact Source.ofLines_eq_error hread
  have hread : (∀ line ∈ Line.ofText t, line.category ≠ .malformed) →
      Source.ofText t = .ok (.gather (Line.numbered t)) := by
    intro hwell
    refine Source.ofLines_eq_ok_iff.mpr ⟨fun line hline hmalformed => ?_, rfl⟩
    exact hwell _ (List.mem_map_of_mem hline) (Reading.category_eq_malformed_iff.mpr hmalformed)
  refine ⟨⟨?_, ?_⟩, ?_, ?_⟩
  · rintro ⟨e, he⟩
    by_contra hnone
    rw [hread fun line hline hmalformed => hnone ⟨line, hline, hmalformed⟩] at he
    cases he
  · rintro ⟨line, hline, hmalformed⟩
    have hfound : ((Line.ofText t).find? (·.category = .malformed)).isSome :=
      List.find?_isSome.mpr ⟨line, hline, by simpa using hmalformed⟩
    obtain ⟨first, hfirst⟩ := Option.isSome_iff_exists.mp hfound
    exact ⟨_, hrefused first hfirst⟩
  · intro line hline
    refine ⟨hrefused line hline, ?_⟩
    rw [ofText, hrefused line hline]
    rfl
  · intro hwell
    have hsource := hread hwell
    have hdirectives := map_toLine_directives hsource
    have hcount := ruleCount_add_conditionCount (ofSource (.gather (Line.numbered t)))
    rw [← hdirectives, List.length_map] at hcount
    refine ⟨_, _, hsource, by rw [ofText, hsource]; rfl, rfl, Source.map_toLine_statements hsource,
      rfl, hdirectives, hcount, ?_⟩
    rw [isEmpty, List.isEmpty_iff_length_eq_zero, ← hcount, Nat.add_eq_zero_iff]

private def brokenText : Text := "# a\nRewriteRule a\rRewriteRule a b\nRewriteCond b".toList

private def wellFormedText : Text := "# a\r\n  RewriteCond a b [OR]\n\nRewriteRule c d".toList

/-- Two lines of the first text are malformed, and it is refused for the one above. The second text
has a condition and a rule, with a blank line between them. -/
theorem ofText_agrees_with_lines_of_broken :
    ofText brokenText = .error { line := 2, text := "RewriteRule a".toList } ∧
      ∃ rules, ofText wellFormedText = .ok rules ∧
        rules.directives.map Directive.toLine = [
          { number := 2, text := "RewriteCond a b [OR]".toList, category := .condition },
          { number := 4, text := "RewriteRule c d".toList, category := .rule }] := by
  have hfirst : (Line.ofText brokenText).find? (·.category = .malformed) =
      some { number := 2, text := "RewriteRule a".toList, category := .malformed } := by
    decide +kernel
  have hwell : ∀ line ∈ Line.ofText wellFormedText, line.category ≠ .malformed := by
    decide +kernel
  refine ⟨((ofText_agrees_with_lines brokenText).2.1 _ hfirst).2, ?_⟩
  obtain ⟨-, rules, -, hrules, -, -, -, hlines, -⟩ :=
    (ofText_agrees_with_lines wellFormedText).2.2 hwell
  refine ⟨rules, hrules, hlines.trans ?_⟩
  decide +kernel

end RuleSet

end Reroute
