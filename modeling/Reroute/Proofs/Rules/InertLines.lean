import Mathlib.Data.List.DropRight
import Mathlib.Logic.Function.Basic
import Mathlib.Order.Monotone.Defs
import Reroute.Proofs.Pass.Renumbering
import Reroute.Proofs.Rules.Lines
import Reroute.Proofs.Rules.Reading

/-!
# Lines that say nothing

Blank lines, comments and other directives take part in a rule text only by being counted. Two texts
whose other lines are the same have the same conditions and rules, on lines that may have other
numbers, and a pass knows of these numbers only to report them.
-/

namespace Reroute

open Pass

def Category.isStatement : Category → Bool
  | .condition | .rule => true
  | .blank | .comment | .unrecognized | .malformed => false

/-- Whether lines of a category neither say anything to a pass nor stop the reading of a text. -/
def Category.isInert : Category → Bool
  | .blank | .comment | .unrecognized => true
  | .condition | .rule | .malformed => false

theorem Reading.category_eq_malformed_iff {reading : Reading} :
    reading.category = .malformed ↔ reading = .malformed := by
  cases reading with
  | statement kind fields => cases kind <;> simp [category, Kind.category]
  | blank | comment | unrecognized | malformed => simp [category]

namespace Line

def categoryOf (line : Text) : Category := (Reading.ofText line.trim).category

/-- The lines of a text that are not inert. -/
def active (t : Text) : List Text := (split t).filter fun line => !(categoryOf line).isInert

variable {c : Char} {line t rest ending : Text}

/-! ### Putting lines into a text -/

def ends : List Text := [['\n'], ['\r'], ['\r', '\n']]

theorem mem_ends_iff : ending ∈ ends ↔ ending = ['\n'] ∨ ending = ['\r'] ∨ ending = ['\r', '\n'] := by
  simp [ends]

/-- A text gets one more line: with an end of its own where a line begins, or as the last one. -/
inductive Inserted (line : Text) : Text → Text → Prop
  | among {before after ending : Text} (hbefore : ∀ c ∈ before.getLast?, IsEnd c)
      (hending : ending ∈ ends) :
      Inserted line (before ++ after) (before ++ (line ++ ending ++ after))
  | last {t : Text} (ht : ∀ c ∈ t.getLast?, IsEnd c) : Inserted line t (t ++ line)
  | behind {t ending : Text} (hending : ending ∈ ends) : Inserted line t (t ++ ending ++ line)

theorem active_append (t rest : Text) (hend : ∀ c ∈ t.getLast?, IsEnd c) :
    active (t ++ rest) = active t ++ active rest := by
  obtain ⟨lines, hsplit, hrest⟩ := exists_split_append t rest hend
  have hactive : active rest = lines.filter fun line => !(categoryOf line).isInert := by
    unfold active
    rcases hrest with hrest | hrest
    · rw [hrest]
    · rw [hrest]
      rfl
  rw [hactive, active, hsplit, List.filter_append]
  rfl

theorem active_of_inert (hline : ∀ c ∈ line, ¬ IsEnd c)
    (hinert : (categoryOf line).isInert = true) : active line = [] := by
  by_cases hne : line = []
  · subst hne
    rfl
  · simp [active, split_of_not_isEnd hne hline, hinert]

theorem exists_last_line (t : Text) :
    ∃ before line, t = before ++ line ∧ (∀ c ∈ before.getLast?, IsEnd c) ∧
      ∀ c ∈ line, ¬ IsEnd c := by
  refine ⟨t.rdropWhile (fun c => !decide (IsEnd c)), t.rtakeWhile (fun c => !decide (IsEnd c)),
    (List.rdropWhile_append_rtakeWhile ..).symm, ?_, ?_⟩
  · intro c hc
    obtain ⟨hne, hlast⟩ := List.mem_getLast?_eq_getLast hc
    have hend := List.rdropWhile_last_not (fun c => !decide (IsEnd c)) t hne
    rw [← hlast] at hend
    exact or_iff_not_imp_left.mpr (by simpa using hend)
  · intro c hc
    simpa using List.mem_rtakeWhile_imp hc

theorem active_append_ending (t : Text) (hending : ending ∈ ends) :
    active (t ++ ending) = active t := by
  have hsplit : split ending = [[]] := by
    rcases mem_ends_iff.mp hending with rfl | rfl | rfl <;> rfl
  obtain ⟨before, line, rfl, hbefore, hline⟩ := exists_last_line t
  -- Behind a line the end adds no line, and on its own it adds a blank one.
  have hlast : active (line ++ ending) = active line := by
    unfold active
    by_cases hne : line = []
    · subst hne
      rw [List.nil_append, hsplit]
      rfl
    · rw [split_append_of_not_isEnd hline hsplit, split_of_not_isEnd hne hline]
  rw [List.append_assoc, active_append _ _ hbefore, active_append _ _ hbefore, hlast]

theorem isEnd_of_mem_getLast?_ending (t : Text) (hending : ending ∈ ends) :
    ∀ c ∈ (t ++ ending).getLast?, IsEnd c := by
  rcases mem_ends_iff.mp hending with rfl | rfl | rfl <;> simp [List.getLast?_append, IsEnd]

theorem Inserted.active_eq (h : Inserted line t rest) (hline : ∀ c ∈ line, ¬ IsEnd c)
    (hinert : (categoryOf line).isInert = true) : active rest = active t := by
  have hnone := active_of_inert hline hinert
  cases h with
  | @among before after ending hbefore hending =>
      have hended := isEnd_of_mem_getLast?_ending line hending
      rw [active_append _ _ hbefore, active_append _ _ hended, active_append_ending line hending,
        hnone, active_append _ _ hbefore, List.nil_append]
  | last ht => rw [active_append _ _ ht, hnone, List.append_nil]
  | behind hending =>
      rw [active_append _ _ (isEnd_of_mem_getLast?_ending t hending),
        active_append_ending t hending, hnone, List.append_nil]

end Line

/-! ### What the other lines say -/

def Statement.toLine (s : Statement) : Line where
  number := s.line
  text := s.text
  category := s.kind.category

namespace Source

def said (number : Nat) (line : Text) : Option Statement :=
  Statement.ofReading? number line.trim (Reading.ofText line.trim)

theorem said_of_isInert {line : Text} (h : (Line.categoryOf line).isInert = true) (number : Nat) :
    said number line = none := by
  unfold Line.categoryOf at h
  unfold said
  cases hreading : Reading.ofText line.trim with
  | statement kind fields =>
      cases kind <;> simp [hreading, Reading.category, Kind.category, Category.isInert] at h
  | blank | comment | unrecognized | malformed => rfl

theorem map_mapLine_said (number : Nat) (renumber : Nat → Nat) (line : Text) :
    (said number line).map (Statement.mapLine renumber) = said (renumber number) line := by
  unfold said
  cases Reading.ofText line.trim <;> rfl

theorem map_statements_gather (t : Text) :
    (gather (Line.numbered t)).statements.map (Statement.mapLine fun _ => 0) =
      (Line.active t).filterMap (said 0) := by
  have hlines := List.zipIdx_map_fst 0 (Line.split t)
  calc (gather (Line.numbered t)).statements.map (Statement.mapLine fun _ => 0)
      = ((Line.split t).zipIdx.map Prod.fst).filterMap (said 0) := by
        rw [gather, Line.numbered, List.filterMap_map, List.map_filterMap, List.filterMap_map]
        refine List.filterMap_congr ?_
        rintro ⟨line, i⟩ -
        exact map_mapLine_said (i + 1) (fun _ => 0) line
    _ = (Line.split t).filterMap (said 0) := by rw [hlines]
    _ = (Line.active t).filterMap (said 0) := by
        rw [Line.active, List.filterMap_filter]
        refine List.filterMap_congr fun line _ => ?_
        cases hinert : (Line.categoryOf line).isInert with
        | true => simp [said_of_isInert hinert]
        | false => rfl

theorem not_malformed_iff (t : Text) :
    (∀ line ∈ Line.numbered t, Reading.ofText line.2 ≠ .malformed) ↔
      ∀ line ∈ Line.active t, Line.categoryOf line ≠ .malformed := by
  constructor
  · intro h line hline hmalformed
    have hsplit : line ∈ (Line.split t).zipIdx.map Prod.fst := by
      rw [List.zipIdx_map_fst]
      exact List.mem_of_mem_filter hline
    obtain ⟨⟨line, i⟩, hmem, rfl⟩ := List.mem_map.mp hsplit
    exact h _ (List.mem_map_of_mem hmem) (Reading.category_eq_malformed_iff.mp hmalformed)
  · intro h line hline hmalformed
    obtain ⟨⟨line, i⟩, hmem, rfl⟩ := List.mem_map.mp hline
    have hcategory : Line.categoryOf line = .malformed :=
      Reading.category_eq_malformed_iff.mpr hmalformed
    have hactive : line ∈ Line.active t :=
      List.mem_filter.mpr ⟨List.fst_mem_of_mem_zipIdx hmem, by simp [hcategory, Category.isInert]⟩
    exact h line hactive hcategory

theorem exists_ofText_of_active_eq {t t' : Text} {source : Source} (h : ofText t = .ok source)
    (hactive : Line.active t' = Line.active t) :
    ∃ source', ofText t' = .ok source' ∧
      source'.statements.map (Statement.mapLine fun _ => 0) =
        source.statements.map (Statement.mapLine fun _ => 0) := by
  obtain ⟨hwell, rfl⟩ := ofLines_eq_ok_iff.mp h
  have hwell' : ∀ line ∈ Line.numbered t', Reading.ofText line.2 ≠ .malformed := by
    rw [not_malformed_iff, hactive, ← not_malformed_iff]
    exact hwell
  refine ⟨_, ofLines_eq_ok_iff.mpr ⟨hwell', rfl⟩, ?_⟩
  rw [map_statements_gather, map_statements_gather, hactive]

theorem map_toLine_statements {lines : List (Nat × Text)} {source : Source}
    (h : ofLines lines = .ok source) :
    source.statements.map Statement.toLine = source.lines.filter (·.category.isStatement) := by
  obtain ⟨-, rfl⟩ := ofLines_eq_ok_iff.mp h
  unfold gather
  rw [List.map_filterMap, List.filter_map, ← List.filterMap_eq_map, List.filterMap_filter]
  refine List.filterMap_congr fun ⟨number, text⟩ _ => ?_
  cases hreading : Reading.ofText text with
  | statement kind fields =>
      cases kind <;> simp [hreading, Statement.ofReading?, Statement.toLine, Reading.category,
        Kind.category, Category.isStatement]
  | blank | comment | unrecognized | malformed =>
      simp [hreading, Statement.ofReading?, Reading.category, Category.isStatement]

end Source

/-! ### Renumbering -/

/-- Statements on lines of their own can be brought to the lines of any other statements that are the
same but for their lines. -/
theorem Statement.exists_mapLine {ss ss' : List Statement} (hlines : (ss.map line).Nodup)
    (hsame : ss'.map (mapLine fun _ => 0) = ss.map (mapLine fun _ => 0)) :
    ∃ renumber, ss' = ss.map (mapLine renumber) := by
  induction ss generalizing ss' with
  | nil => exact ⟨id, by simpa using hsame⟩
  | cons s ss ih =>
      obtain ⟨s', ss', rfl⟩ := List.exists_cons_of_ne_nil (l := ss') (by rintro rfl; simp at hsame)
      rw [List.map_cons, List.map_cons, List.cons.injEq] at hsame
      rw [List.map_cons, List.nodup_cons] at hlines
      obtain ⟨renumber, rfl⟩ := ih hlines.2 hsame.2
      -- No other statement is on the line of the first, so that none of them notices the update.
      refine ⟨Function.update renumber s.line s'.line, ?_⟩
      rw [List.map_cons, List.cons.injEq]
      constructor
      · obtain ⟨kind, line, text, fields⟩ := s
        obtain ⟨kind', line', text', fields'⟩ := s'
        simp_all [mapLine]
      · refine List.map_congr_left fun u hu => ?_
        have hne : u.line ≠ s.line := by
          intro heq
          exact hlines.1 (heq ▸ List.mem_map_of_mem hu)
        simp [mapLine, Function.update_of_ne hne]

theorem strictMonoOn_of_pairwise {numbers : List Nat} {f : Nat → Nat}
    (hnumbers : numbers.Pairwise (· < ·)) (hf : (numbers.map f).Pairwise (· < ·)) :
    StrictMonoOn f {n | n ∈ numbers} := by
  induction numbers with
  | nil => intro m hm; cases hm
  | cons n numbers ih =>
      rw [List.map_cons, List.pairwise_cons, List.forall_mem_map] at hf
      rw [List.pairwise_cons] at hnumbers
      intro k hk m hm hlt
      rcases List.mem_cons.mp hk with rfl | hk'
      · rcases List.mem_cons.mp hm with rfl | hm'
        · exact absurd hlt (Nat.lt_irrefl _)
        · exact hf.1 m hm'
      · rcases List.mem_cons.mp hm with rfl | hm'
        · exact absurd hlt (Nat.lt_asymm (hnumbers.1 k hk'))
        · exact ih hnumbers.2 hf.2 hk' hm' hlt

def Line.mapNumber (renumber : Nat → Nat) (line : Line) : Line :=
  { line with number := renumber line.number }

theorem Line.map_number_mapNumber (renumber : Nat → Nat) (lines : List Line) :
    (lines.map (mapNumber renumber)).map number = (lines.map number).map renumber := by
  rw [List.map_map, List.map_map]
  rfl

namespace RuleSet

variable {t t' : Text} {rules : RuleSet} {source : Source}

def statementLines (rules : RuleSet) : List Line := rules.lines.filter (·.category.isStatement)

theorem statementLines_ofSource (h : Source.ofText t = .ok source) :
    (ofSource source).statementLines = source.statements.map Statement.toLine :=
  (Source.map_toLine_statements h).symm

theorem statementLines_pairwise (h : Source.ofText t = .ok source) :
    ((ofSource source).statementLines.map Line.number).Pairwise (· < ·) := by
  have hlines : (ofSource source).statementLines.map Line.number =
      source.statements.map Statement.line := by
    rw [statementLines_ofSource h, List.map_map]
    rfl
  rw [hlines]
  exact (Line.numbered_pairwise t).sublist (Source.statements_sublist h)

theorem report_of_directives_eq_nil (hnone : rules.directives = []) (facts : Facts)
    (options : Options) :
    rules.report facts options =
      .ok { outcome := .untouched, fired := [], processed := 0, restarts := 0 } := by
  have hrun : ∀ budget, Pass.run [] facts.applicationPath budget (.start [] facts) =
      .ok (.start [] facts) := by
    intro budget
    cases budget <;> rfl
  rw [report, hnone, Report.ofDirectives, hrun]
  rfl

/-- **Blank lines, comments and other directives are transparent.** Lines of these kinds can be put
anywhere into a text, so that its active lines stay the same. A text with the same active lines as one
that can be read can be read as well. Its condition and rule lines are those of the other text under
other numbers, in the same order, and for every request its pass gives the same report or the same
failure, with these numbers in the place of the others. Without conditions and rules nothing happens
to a request. -/
theorem report_of_active_eq (hread : ofText t = .ok rules)
    (hactive : Line.active t' = Line.active t) :
    (∀ line before after, Line.Inserted line before after → (∀ c ∈ line, ¬ Line.IsEnd c) →
        (Line.categoryOf line).isInert = true → Line.active after = Line.active before) ∧
      (∃ rules' renumber, ofText t' = .ok rules' ∧
        rules'.statementLines = rules.statementLines.map (Line.mapNumber renumber) ∧
        StrictMonoOn renumber {n | n ∈ rules.statementLines.map Line.number} ∧
        ∀ facts options, rules'.report facts options =
          ((rules.report facts options).map (Report.mapLine renumber)).mapError
            (Failure.mapLine renumber)) ∧
      (rules.statementLines = [] → ∀ facts options, rules.report facts options =
        .ok { outcome := .untouched, fired := [], processed := 0, restarts := 0 }) := by
  obtain ⟨source, hsource, rfl⟩ := exists_source hread
  have hlines := statementLines_ofSource hsource
  have hpairwise := statementLines_pairwise hsource
  refine ⟨fun _ _ _ hinserted hline hinert => hinserted.active_eq hline hinert, ?_, ?_⟩
  · obtain ⟨source', hsource', hsame⟩ := Source.exists_ofText_of_active_eq hsource hactive
    have hnodup : (source.statements.map Statement.line).Nodup := by
      rw [hlines, List.map_map] at hpairwise
      exact hpairwise.imp Nat.ne_of_lt
    obtain ⟨renumber, hstatements⟩ := Statement.exists_mapLine hnodup hsame
    have hlines' : (ofSource source').statementLines =
        (ofSource source).statementLines.map (Line.mapNumber renumber) := by
      rw [statementLines_ofSource hsource', hstatements, hlines, List.map_map, List.map_map]
      rfl
    have hdirectives : (ofSource source').directives =
        (ofSource source).directives.map (Directive.mapLine renumber) := by
      rw [ofSource, ofSource, hstatements, List.map_map, List.map_map]
      exact List.map_congr_left fun s _ => Directive.ofStatement_mapLine renumber s
    refine ⟨ofSource source', renumber, by rw [ofText, hsource']; rfl, hlines', ?_, ?_⟩
    · refine strictMonoOn_of_pairwise hpairwise ?_
      have hpairwise' := statementLines_pairwise hsource'
      rwa [hlines', Line.map_number_mapNumber] at hpairwise'
    · intro facts options
      rw [report, hdirectives]
      exact Report.ofDirectives_mapLine renumber _ facts options
  · intro hnone
    rw [hlines, List.map_eq_nil_iff] at hnone
    exact report_of_directives_eq_nil (by rw [ofSource, hnone, List.map_nil])

private def plainText : Text := "RewriteRule a b\nRewriteRule b - [F]".toList

private def annotatedText : Text :=
  "# From a to b.\r\nRewriteEngine on\nRewriteRule a b\n\n\rRewriteRule b - [F]\n#".toList

/-- Comments, blank lines and an unknown directive move two rules, from the first and second line to
the third and sixth. -/
theorem report_of_active_eq_of_comments :
    ∃ rules rules' renumber,
      ofText plainText = .ok rules ∧ Line.active annotatedText = Line.active plainText ∧
        ofText annotatedText = .ok rules' ∧ rules.statementLines.map Line.number = [1, 2] ∧
        renumber 1 = 3 ∧ renumber 2 = 6 ∧
        ∀ facts options, rules'.report facts options =
          ((rules.report facts options).map (Report.mapLine renumber)).mapError
            (Failure.mapLine renumber) := by
  have hsource : Source.ofText plainText = .ok (.gather (Line.numbered plainText)) := by
    decide +kernel
  have hsource' : Source.ofText annotatedText = .ok (.gather (Line.numbered annotatedText)) := by
    decide +kernel
  have hactive : Line.active annotatedText = Line.active plainText := by decide +kernel
  have hread : ofText plainText = .ok (ofSource (.gather (Line.numbered plainText))) := by
    rw [ofText, hsource]
    rfl
  have hread' : ofText annotatedText = .ok (ofSource (.gather (Line.numbered annotatedText))) := by
    rw [ofText, hsource']
    rfl
  obtain ⟨-, ⟨rules', renumber, hread'', hlines, -, hreport⟩, -⟩ :=
    report_of_active_eq hread hactive
  obtain rfl := Except.ok.inj (hread'.symm.trans hread'')
  have hnumbers : (ofSource (.gather (Line.numbered plainText))).statementLines.map Line.number =
      [1, 2] := by decide +kernel
  have hnumbers' :
      (ofSource (.gather (Line.numbered annotatedText))).statementLines.map Line.number =
        [3, 6] := by decide +kernel
  rw [hlines, Line.map_number_mapNumber, hnumbers] at hnumbers'
  obtain ⟨hfirst, hsecond⟩ : renumber 1 = 3 ∧ renumber 2 = 6 := by simpa using hnumbers'
  exact ⟨_, _, renumber, hread, hactive, hread', hnumbers, hfirst, hsecond, hreport⟩

end RuleSet

end Reroute
