import Mathlib.Algebra.GroupWithZero.Nat
import Reroute.Proofs.Pass.Budget
import Reroute.Proofs.Rules.Lines
import Reroute.Proofs.Rules.OneChar

/-!
# Walks through the directives

A pass walks through its directives from the first one on, and a rule that begins it anew begins
another walk. So the rules that fired fall into walks. Within a walk they stand further and further
down, and a walk takes as many visits as the position at which it is left: that of the rule which
begins the pass anew or ends it, or the number of all directives.
-/

namespace Reroute

open Pass

def RuleFlags.stops (flags : RuleFlags) : Bool := flags.forbidden || flags.gone || flags.last

/-- A rule and how many directives stand before it. -/
structure PlacedRule where
  index : Nat
  rule : Rule

def PlacedRule.position (p : PlacedRule) : Nat := p.index + 1

abbrev Walk := List PlacedRule

def Walk.lastPosition (walk : Walk) : Nat := (walk.getLast?.map PlacedRule.position).getD 0

/-- Rules may fire in one walk if they stand one behind the other in the directives, and none but
the last of them ends the pass or begins it anew. -/
structure Walk.Goes (directives : List Directive) (walk : Walk) : Prop where
  placed : ∀ p ∈ walk, directives[p.index]? = some (.rule p.rule)
  increasing : walk.Pairwise (·.index < ·.index)
  goesOn : ∀ p ∈ walk.dropLast, p.rule.flags.stops = false ∧ p.rule.flags.next = false

theorem Walk.Goes.nil (directives : List Directive) : Walk.Goes directives [] :=
  ⟨by simp, .nil, by simp⟩

theorem Walk.Goes.concat {directives : List Directive} {walk : Walk} {index : Nat} {rule : Rule}
    (h : walk.Goes directives) (hwithin : ∀ p ∈ walk, p.index < index)
    (hall : ∀ p ∈ walk, p.rule.flags.stops = false ∧ p.rule.flags.next = false)
    (hplaced : directives[index]? = some (.rule rule)) :
    Walk.Goes directives (walk ++ [⟨index, rule⟩]) where
  placed := by
    rw [List.forall_mem_append, List.forall_mem_singleton]
    exact ⟨h.placed, hplaced⟩
  increasing := by
    refine List.pairwise_append.mpr ⟨h.increasing, List.pairwise_singleton _ _, ?_⟩
    intro p hp
    rw [List.forall_mem_singleton]
    exact hwithin p hp
  goesOn := by
    rw [List.dropLast_concat]
    exact hall

namespace Pass

variable {directives : List Directive} {path : Text} {c c' : Config} {visits : List Visit}
  {before : List Walk} {current : Walk} {place : Nat}

/-- How lines and visits fall into walks. The last walk has made so many visits. -/
structure Walked (directives : List Directive) (fired : List Nat) (processed restarts : Nat)
    (before : List Walk) (current : Walk) (place : Nat) : Prop where
  fired_eq : fired.reverse = (before.flatten ++ current).map (·.rule.line)
  restarts_eq : restarts = before.length
  processed_eq : processed = (before.map Walk.lastPosition).sum + place
  restarted : ∀ walk ∈ before, walk.Goes directives ∧
    ∃ p, walk.getLast? = some p ∧ p.rule.flags.next = true ∧ p.rule.flags.stops = false
  goes : current.Goes directives
  within : ∀ p ∈ current, p.index < place
  place_le : place ≤ directives.length

/-- How a pass has walked so far, and how it goes on: unless its last rule has ended it, it is in
the middle of a walk. -/
structure Walking (directives : List Directive) (c : Config) (before : List Walk) (current : Walk)
    (place : Nat) : Prop where
  walked : Walked directives c.fired c.processed c.restarts before current place
  ahead :
    (c.rest = directives.drop place ∧
      ∀ p ∈ current, p.rule.flags.stops = false ∧ p.rule.flags.next = false) ∨
    (c.rest = [] ∧ ∃ p, current.getLast? = some p ∧ p.rule.flags.stops = true ∧
      p.position = place)

namespace Walked

variable {fired : List Nat} {processed restarts : Nat}

theorem start (directives : List Directive) : Walked directives [] 0 0 [] [] 0 where
  fired_eq := rfl
  restarts_eq := rfl
  processed_eq := rfl
  restarted := by simp
  goes := .nil directives
  within := by simp
  place_le := Nat.zero_le _

theorem visit (h : Walked directives fired processed restarts before current place)
    (hlt : place < directives.length) :
    Walked directives fired (processed + 1) restarts before current (place + 1) where
  fired_eq := h.fired_eq
  restarts_eq := h.restarts_eq
  processed_eq := by rw [h.processed_eq, Nat.add_assoc]
  restarted := h.restarted
  goes := h.goes
  within := fun p hp => Nat.lt_succ_of_lt (h.within p hp)
  place_le := hlt

theorem fire (h : Walked directives fired processed restarts before current place) {rule : Rule}
    (hall : ∀ p ∈ current, p.rule.flags.stops = false ∧ p.rule.flags.next = false)
    (hplaced : directives[place]? = some (.rule rule)) :
    Walked directives (rule.line :: fired) (processed + 1) restarts before
      (current ++ [⟨place, rule⟩]) (place + 1) where
  fired_eq := by
    rw [List.reverse_cons, h.fired_eq, ← List.append_assoc]
    simp
  restarts_eq := h.restarts_eq
  processed_eq := by rw [h.processed_eq, Nat.add_assoc]
  restarted := h.restarted
  goes := h.goes.concat h.within hall hplaced
  within := by
    rw [List.forall_mem_append, List.forall_mem_singleton]
    exact ⟨fun p hp => Nat.lt_succ_of_lt (h.within p hp), Nat.lt_succ_self place⟩
  place_le := (List.getElem?_eq_some_iff.mp hplaced).1

theorem restart (h : Walked directives fired processed restarts before current place)
    {p : PlacedRule} (hlast : current.getLast? = some p) (hposition : p.position = place)
    (hnext : p.rule.flags.next = true) (hstops : p.rule.flags.stops = false) :
    Walked directives fired processed (restarts + 1) (before ++ [current]) [] 0 where
  fired_eq := by rw [h.fired_eq, List.flatten_append, List.flatten_singleton, List.append_nil]
  restarts_eq := by rw [h.restarts_eq, List.length_append, List.length_singleton]
  processed_eq := by
    have hvisits : Walk.lastPosition current = place := by
      rw [Walk.lastPosition, hlast, Option.map_some, Option.getD_some, hposition]
    rw [h.processed_eq, List.map_append, List.sum_append, List.map_singleton, hvisits,
      List.sum_singleton, Nat.add_zero]
  restarted := by
    rw [List.forall_mem_append, List.forall_mem_singleton]
    exact ⟨h.restarted, h.goes, p, hlast, hnext, hstops⟩
  goes := .nil directives
  within := by simp
  place_le := Nat.zero_le _

end Walked

namespace Walking

theorem of_rest (h : Walking directives c before current place) {d : Directive}
    {ahead : List Directive} (hrest : c.rest = d :: ahead) :
    directives[place]? = some d ∧ directives.drop (place + 1) = ahead ∧
      ∀ p ∈ current, p.rule.flags.stops = false ∧ p.rule.flags.next = false := by
  rcases h.ahead with ⟨hdrop, hall⟩ | ⟨hempty, -⟩
  · rw [hrest] at hdrop
    have hlt : place < directives.length := by
      by_contra hge
      rw [List.drop_eq_nil_of_le (by omega)] at hdrop
      cases hdrop
    rw [List.drop_eq_getElem_cons hlt, List.cons.injEq] at hdrop
    refine ⟨?_, hdrop.2.symm, hall⟩
    rw [List.getElem?_eq_getElem hlt, hdrop.1]
  · rw [hempty] at hrest
    cases hrest

theorem pass (h : Walking directives c before current place) {d : Directive}
    {ahead : List Directive} (hrest : c.rest = d :: ahead) (state : State) :
    Walking directives (c.pass ahead state) before current (place + 1) := by
  obtain ⟨hplaced, hahead, hall⟩ := h.of_rest hrest
  have hlt := (List.getElem?_eq_some_iff.mp hplaced).1
  exact ⟨h.walked.visit hlt, .inl ⟨hahead.symm, hall⟩⟩

/-- A rule that fires is the last of the walk so far. Either the pass is over, or the next walk
begins, or this one goes on. -/
theorem fire (h : Walking directives c before current place) {rule : Rule}
    {ahead : List Directive} (hrest : c.rest = .rule rule :: ahead) (state : State)
    {course : Course}
    (hcourse : course =
      if rule.flags.stops then .stop else if rule.flags.next then .restart else .next) :
    ∃ before' current' place',
      Walking directives (c.fire directives ahead rule.line state course) before' current'
        place' := by
  obtain ⟨hplaced, hahead, hall⟩ := h.of_rest hrest
  have hwalked := h.walked.fire hall hplaced
  have hlast : (current ++ [(⟨place, rule⟩ : PlacedRule)]).getLast? = some ⟨place, rule⟩ :=
    List.getLast?_concat
  subst hcourse
  cases hstops : rule.flags.stops with
  | true => exact ⟨_, _, _, hwalked, .inr ⟨rfl, _, hlast, hstops, rfl⟩⟩
  | false =>
      cases hnext : rule.flags.next with
      | true => exact ⟨_, _, _, hwalked.restart hlast rfl hnext hstops, .inl ⟨rfl, by simp⟩⟩
      | false =>
          refine ⟨_, _, _, hwalked, .inl ⟨hahead.symm, ?_⟩⟩
          rw [List.forall_mem_append, List.forall_mem_singleton]
          exact ⟨hall, hstops, hnext⟩

theorem step (h : Walking directives c before current place)
    (hstep : step directives path c = some (.ok c')) :
    ∃ before' current' place', Walking directives c' before' current' place' := by
  cases stepped_of_step hstep with
  | condition hrest _ | passed hrest _ => exact ⟨before, current, place + 1, h.pass hrest _⟩
  | fired hrest hvisit => exact h.fire hrest _ (Rule.course_of_visit hvisit)

end Walking

theorem exists_walking {facts : Facts} (hvisits : Reaches directives facts visits c) :
    ∃ before current place, Walking directives c before current place := by
  induction hvisits with
  | nil => exact ⟨[], [], 0, .start directives, .inl ⟨rfl, by simp⟩⟩
  | snoc _ _ hstep ih =>
      obtain ⟨before, current, place, h⟩ := ih
      exact h.step hstep

theorem Walked.stops_eq_false {fired : List Nat} {processed restarts : Nat}
    (h : Walked directives fired processed restarts before current place) :
    ∀ p ∈ before.flatten, p.rule.flags.stops = false := by
  rw [List.forall_mem_flatten]
  intro walk hwalk
  obtain ⟨hgoes, last, hlast, -, hstops⟩ := h.restarted walk hwalk
  obtain ⟨init, rfl⟩ := List.getLast?_eq_some_iff.mp hlast
  have hinit := hgoes.goesOn
  rw [List.dropLast_concat] at hinit
  rw [List.forall_mem_append, List.forall_mem_singleton]
  exact ⟨fun p hp => (hinit p hp).1, hstops⟩

end Pass

/-- The rules that fired fall into walks, one more than there were restarts. In each of them they
stand on increasing lines. All walks but the last end with a rule that begins the pass anew, only
the rule that fired last can be one that ends the pass, and the visits are counted by the positions
at which the walks were left. -/
structure Report.Walks (directives : List Directive) (report : Report) (before : List Walk)
    (last : Walk) : Prop where
  placed : ∀ p ∈ before.flatten ++ last, directives[p.index]? = some (.rule p.rule)
  fired : report.fired = (before.flatten ++ last).map (·.rule.line)
  restarts : report.restarts = before.length
  increasing : ∀ walk ∈ before ++ [last], walk.Pairwise (·.rule.line < ·.rule.line)
  restarted : ∀ walk ∈ before, ∃ p, walk.getLast? = some p ∧
    p.rule.flags.next = true ∧ p.rule.flags.stops = false
  stops : ∀ p ∈ (before.flatten ++ last).dropLast, p.rule.flags.stops = false
  next : ∀ walk ∈ before ++ [last], ∀ p ∈ walk.dropLast, p.rule.flags.next = false
  stops_of_next : ∀ p, last.getLast? = some p → p.rule.flags.next = true →
    p.rule.flags.stops = true
  processed_of_stops : ∀ p, (before.flatten ++ last).getLast? = some p →
    p.rule.flags.stops = true →
      report.processed = (before.map Walk.lastPosition).sum + p.position
  processed_of_not_stops :
    (∀ p, (before.flatten ++ last).getLast? = some p → p.rule.flags.stops = false) →
      report.processed = (before.map Walk.lastPosition).sum + directives.length

theorem Walk.Goes.pairwise_line {directives : List Directive} {walk : Walk}
    (h : walk.Goes directives) (hlines : directives.Pairwise fun d e => d.line < e.line) :
    walk.Pairwise (·.rule.line < ·.rule.line) := by
  refine h.increasing.imp_of_mem fun {p q} hp hq hlt => ?_
  obtain ⟨hpLength, hpRule⟩ := List.getElem?_eq_some_iff.mp (h.placed p hp)
  obtain ⟨hqLength, hqRule⟩ := List.getElem?_eq_some_iff.mp (h.placed q hq)
  have hline := List.pairwise_iff_getElem.mp hlines p.index q.index hpLength hqLength hlt
  rw [hpRule, hqRule] at hline
  exact hline

theorem Pass.Walking.report {directives : List Directive} {c : Config} {before : List Walk}
    {current : Walk} {place : Nat} (h : Walking directives c before current place)
    (hrest : c.rest = []) (hlines : directives.Pairwise fun d e => d.line < e.line) :
    (Report.ofConfig c).Walks directives before current := by
  obtain ⟨hwalked, hahead⟩ := h
  have hgoes : ∀ walk ∈ before ++ [current], walk.Goes directives := by
    rw [List.forall_mem_append, List.forall_mem_singleton]
    exact ⟨fun walk hwalk => (hwalked.restarted walk hwalk).1, hwalked.goes⟩
  have hlast : ∀ p, current.getLast? = some p →
      (before.flatten ++ current).getLast? = some p := by
    intro p hp
    rw [List.getLast?_append, hp]
    rfl
  -- The pass is over because a rule has ended it, or because no directive is left.
  have hend : (place = directives.length ∧
        ∀ p ∈ current, p.rule.flags.stops = false ∧ p.rule.flags.next = false) ∨
      ∃ p, current.getLast? = some p ∧ p.rule.flags.stops = true ∧ p.position = place := by
    rcases hahead with ⟨hdrop, hall⟩ | ⟨-, hstopped⟩
    · rw [hrest] at hdrop
      have hlength := List.drop_eq_nil_iff.mp hdrop.symm
      exact .inl ⟨Nat.le_antisymm hwalked.place_le hlength, hall⟩
    · exact .inr hstopped
  have hprocessed : c.processed = (before.map Walk.lastPosition).sum + place :=
    hwalked.processed_eq
  exact {
    placed := by
      rw [List.forall_mem_append, List.forall_mem_flatten]
      exact ⟨fun walk hwalk => (hwalked.restarted walk hwalk).1.placed, hwalked.goes.placed⟩
    fired := hwalked.fired_eq
    restarts := hwalked.restarts_eq
    increasing := fun walk hwalk => (hgoes walk hwalk).pairwise_line hlines
    restarted := fun walk hwalk => (hwalked.restarted walk hwalk).2
    stops := by
      by_cases hempty : current = []
      · rw [hempty, List.append_nil]
        exact fun p hp => hwalked.stops_eq_false p (List.dropLast_subset _ hp)
      · rw [List.dropLast_append_of_ne_nil hempty, List.forall_mem_append]
        exact ⟨hwalked.stops_eq_false, fun p hp => (hwalked.goes.goesOn p hp).1⟩
    next := fun walk hwalk p hp => ((hgoes walk hwalk).goesOn p hp).2
    stops_of_next := by
      intro p hp hnext
      rcases hend with ⟨-, hall⟩ | ⟨q, hq, hstops, -⟩
      · rw [(hall p (List.mem_of_getLast? hp)).2] at hnext
        cases hnext
      · rw [hp, Option.some.injEq] at hq
        rwa [hq]
    processed_of_stops := by
      intro p hp hstops
      rcases hend with ⟨-, hall⟩ | ⟨q, hq, -, hposition⟩
      · have hnone : ∀ q ∈ before.flatten ++ current, q.rule.flags.stops = false := by
          rw [List.forall_mem_append]
          exact ⟨hwalked.stops_eq_false, fun q hq => (hall q hq).1⟩
        rw [hnone p (List.mem_of_getLast? hp)] at hstops
        cases hstops
      · rw [hlast q hq, Option.some.injEq] at hp
        rw [← hp, hposition]
        exact hprocessed
    processed_of_not_stops := by
      intro hnone
      rcases hend with ⟨hlength, -⟩ | ⟨q, hq, hstops, -⟩
      · rw [← hlength]
        exact hprocessed
      · rw [hnone q (hlast q hq)] at hstops
        cases hstops }

/-- **The shape of a report.** The rules that fired fall into walks through the directives. If none
of them is one that begins a pass anew, there was only one walk, no directive was visited twice and
no line is listed twice. -/
theorem RuleSet.exists_walks {text : Text} {rules : RuleSet} (hrules : ofText text = .ok rules)
    {facts : Facts} {options : Options} {report : Report}
    (hreport : rules.report facts options = .ok report) :
    ∃ before last, report.Walks rules.directives before last ∧
      ((∀ p ∈ before.flatten ++ last, p.rule.flags.next = false) →
        report.restarts = 0 ∧ report.processed ≤ rules.directives.length ∧
          report.fired.Nodup) := by
  obtain ⟨visits, c, hvisits, hrest, rfl⟩ := Report.reaches_of_ofDirectives hreport
  obtain ⟨before, last, place, h⟩ := exists_walking hvisits
  have hwalks := h.report hrest (directives_pairwise hrules)
  refine ⟨before, last, hwalks, fun hnext => ?_⟩
  -- The walks before the last would each have a rule that begins the pass anew.
  have hbefore : before = [] := by
    refine List.eq_nil_iff_forall_not_mem.mpr fun walk hwalk => ?_
    obtain ⟨p, hp, hflag, -⟩ := hwalks.restarted walk hwalk
    have hmem : p ∈ before.flatten := List.mem_flatten.mpr ⟨walk, hwalk, List.mem_of_getLast? hp⟩
    rw [hnext p (List.mem_append_left _ hmem)] at hflag
    cases hflag
  subst hbefore
  refine ⟨hwalks.restarts, ?_, ?_⟩
  · have hprocessed : c.processed = 0 + place := h.walked.processed_eq
    have hplace := h.walked.place_le
    change c.processed ≤ rules.directives.length
    omega
  · have hincreasing := hwalks.increasing last (by simp)
    rw [hwalks.fired, List.flatten_nil, List.nil_append, List.Nodup, List.pairwise_map]
    exact hincreasing.imp Nat.ne_of_lt

private def walkingText : Text := "RewriteRule a b [N]\nRewriteRule b - [L]".toList

private def walkingRules : List Directive := [
  .rule { Rule.onChar 1 'a' "b" ["N"] with text := "RewriteRule a b [N]".toList },
  .rule { Rule.onChar 2 'b' "-" ["L"] with text := "RewriteRule b - [L]".toList }]

private def walkingRequest : Facts where
  url := "/a".toList
  now := ⟨2000, 1, 1, 0, 0, 0⟩

private theorem exists_walkingRules :
    ∃ rules, RuleSet.ofText walkingText = .ok rules ∧ rules.directives = walkingRules := by
  have hstatements : (Source.ofText walkingText).toOption.map Source.statements = some [
      { kind := .rule, line := 1, text := "RewriteRule a b [N]".toList
        fields := ⟨['a'], ['b'], [['N']]⟩ },
      { kind := .rule, line := 2, text := "RewriteRule b - [L]".toList
        fields := ⟨['b'], ['-'], [['L']]⟩ }] := by decide +kernel
  have hfirst : Rule.ofFields 1 "RewriteRule a b [N]".toList ⟨['a'], ['b'], [['N']]⟩ =
      { Rule.onChar 1 'a' "b" ["N"] with text := "RewriteRule a b [N]".toList } :=
    Rule.ofFields_eq_onChar 1 _ 'a' "b" ["N"] rfl (by decide) (by decide +kernel) rfl
      (by decide +kernel)
  have hsecond : Rule.ofFields 2 "RewriteRule b - [L]".toList ⟨['b'], ['-'], [['L']]⟩ =
      { Rule.onChar 2 'b' "-" ["L"] with text := "RewriteRule b - [L]".toList } :=
    Rule.ofFields_eq_onChar 2 _ 'b' "-" ["L"] rfl (by decide) (by decide +kernel) rfl
      (by decide +kernel)
  cases hsource : Source.ofText walkingText with
  | error e => simp [hsource, Except.toOption] at hstatements
  | ok source =>
      simp only [hsource, Except.toOption, Option.map_some, Option.some.injEq] at hstatements
      refine ⟨.ofSource source, by rw [RuleSet.ofText, hsource]; rfl, ?_⟩
      simp only [RuleSet.ofSource, hstatements, List.map_cons, List.map_nil,
        Directive.ofStatement, hfirst, hsecond]
      rfl

/-- The first rule begins the pass anew at the first visit, and the second ends it at the third. -/
theorem RuleSet.exists_walks_of_restart :
    ∃ rules report before last, ofText walkingText = .ok rules ∧
      rules.report walkingRequest {} = .ok report ∧ report.Walks rules.directives before last ∧
      report.fired = [1, 2] ∧ report.restarts = 1 ∧ report.processed = 1 + 2 := by
  obtain ⟨rules, hrules, hdirectives⟩ := exists_walkingRules
  have hreport : rules.report walkingRequest {} = .ok {
      outcome := { action := .transfer "/b".toList, cookies := [], contentType := none }
      fired := [1, 2]
      processed := 3
      restarts := 1 } := by
    rw [RuleSet.report, hdirectives]
    rfl
  obtain ⟨before, last, hwalks, -⟩ := exists_walks hrules hreport
  exact ⟨rules, _, before, last, hrules, hreport, hwalks, rfl, rfl, rfl⟩

end Reroute
