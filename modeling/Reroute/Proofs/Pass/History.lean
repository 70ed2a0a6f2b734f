import Mathlib.Data.List.Induction
import Reroute.Proofs.Pass.Step

/-!
# The history of a pass

The visits by which a pass gets from one point to another, each with the state in which the pass
came to it. A history knows no budget: it is the pass as the directives alone steer it. A pass with
a budget goes through the same visits as long as the budget lasts (`History.run_add`).
-/

namespace Reroute.Pass

/-- A directive and the state in which a pass came to it. -/
structure Visit where
  directive : Directive
  state : State

def Visit.Fires (v : Visit) (path : Text) (r : Rule) : Prop :=
  v.directive = .rule r ∧ ∃ state course, r.visit path v.state = .ok (state, some course)

/-- The visits that lead from one point of a pass to another, in their order. None of them ends in
a fault. -/
inductive History (directives : List Directive) (path : Text) (c : Config) :
    List Visit → Config → Prop
  | nil : History directives path c [] c
  | snoc {visits : List Visit} {d : Directive} {ahead : List Directive} {c' c'' : Config}
      (hvisits : History directives path c visits c') (hrest : c'.rest = d :: ahead)
      (hstep : step directives path c' = some (.ok c'')) :
      History directives path c (visits ++ [⟨d, c'.state⟩]) c''

/-- The visits that a pass for a request makes until it is at some point. -/
abbrev Reaches (directives : List Directive) (facts : Facts) (visits : List Visit)
    (c : Config) : Prop :=
  History directives facts.applicationPath (.start directives facts) visits c

variable {directives : List Directive} {path : Text} {c c' : Config} {visits : List Visit}

theorem processed_of_step (hstep : step directives path c = some (.ok c')) :
    c'.processed = c.processed + 1 := by
  cases stepped_of_step hstep <;> rfl

/-- What holds of a state and the visits that led to it holds all along, if every visit keeps it. -/
theorem History.invariant {P : List Visit → State → Prop}
    (hvisits : History directives path c visits c') (hstart : P [] c.state)
    (hvisit : ∀ visits d state state' course, P visits state →
      d.visit path state = .ok (state', course) → P (visits ++ [⟨d, state⟩]) state') :
    P visits c'.state := by
  induction hvisits with
  | nil => exact hstart
  | snoc _ hrest hstep ih =>
      obtain ⟨course, hcourse⟩ := visit_of_step hrest hstep
      exact hvisit _ _ _ _ course ih hcourse

theorem History.eq_or_step (hvisits : History directives path c visits c') :
    (visits = [] ∧ c' = c) ∨
      ∃ d ahead c₁ later, c.rest = d :: ahead ∧ step directives path c = some (.ok c₁) ∧
        visits = ⟨d, c.state⟩ :: later ∧ History directives path c₁ later c' := by
  induction hvisits with
  | nil => exact .inl ⟨rfl, rfl⟩
  | @snoc visits d ahead c' c'' _ hrest hstep ih =>
      obtain ⟨rfl, rfl⟩ | ⟨d₁, ahead₁, c₁, later, hrest₁, hstep₁, rfl, hlater⟩ := ih
      · exact .inr ⟨d, ahead, c'', [], hrest, hstep, rfl, .nil⟩
      · exact .inr ⟨d₁, ahead₁, c₁, _, hrest₁, hstep₁, rfl, hlater.snoc hrest hstep⟩

theorem History.exists_of_append {before later : List Visit}
    (hvisits : History directives path c (before ++ later) c') :
    ∃ c₁, History directives path c before c₁ ∧ History directives path c₁ later c' := by
  induction later using List.reverseRecOn generalizing c' with
  | nil => exact ⟨c', by simpa using hvisits, .nil⟩
  | append_singleton later v ih =>
      rw [← List.append_assoc] at hvisits
      generalize hall : before ++ later ++ [v] = all at hvisits
      cases hvisits with
      | nil => simp at hall
      | snoc hvisits hrest hstep =>
          obtain ⟨rfl, hlast⟩ := List.append_inj' hall rfl
          obtain ⟨c₁, hbefore, hlater⟩ := ih hvisits
          rw [hlast]
          exact ⟨c₁, hbefore, hlater.snoc hrest hstep⟩

/-- A pass came to every one of its visits, and went on from it to the later ones. -/
theorem History.exists_of_append_cons {before later : List Visit} {v : Visit}
    (hvisits : History directives path c (before ++ v :: later) c') :
    ∃ c₁ ahead c₂, History directives path c before c₁ ∧ c₁.rest = v.directive :: ahead ∧
      c₁.state = v.state ∧ step directives path c₁ = some (.ok c₂) ∧
        History directives path c₂ later c' := by
  obtain ⟨c₁, hbefore, hlater⟩ := hvisits.exists_of_append
  obtain ⟨hnil, -⟩ | ⟨d, ahead, c₂, later', hrest, hstep, hcons, hlater⟩ := hlater.eq_or_step
  · cases hnil
  · obtain ⟨rfl, rfl⟩ := List.cons.inj hcons
    exact ⟨c₁, ahead, c₂, hbefore, hrest, rfl, hstep, hlater⟩

theorem History.processed_eq (hvisits : History directives path c visits c') :
    c'.processed = c.processed + visits.length := by
  induction hvisits with
  | nil => simp
  | snoc _ _ hstep ih =>
      rw [processed_of_step hstep, ih, List.length_append, List.length_singleton, Nat.add_assoc]

theorem History.rest_isSuffix (hvisits : History directives path c visits c')
    (hrest : c.rest <:+ directives) : c'.rest <:+ directives := by
  induction hvisits with
  | nil => exact hrest
  | @snoc visits d ahead c' c'' _ hahead hstep ih =>
      have hsuffix : ahead <:+ directives := (List.suffix_cons d ahead).trans (hahead ▸ ih)
      obtain ⟨state, _, rfl⟩ | ⟨rule, state, course, _, _, rfl⟩ := step_cases hahead hstep
      · exact hsuffix
      · cases course with
        | next => exact hsuffix
        | restart => exact List.suffix_refl directives
        | stop => exact List.nil_suffix

theorem History.mem_of_rest {d : Directive} {ahead : List Directive}
    (hvisits : History directives path c visits c') (hrest : c.rest <:+ directives)
    (hahead : c'.rest = d :: ahead) : d ∈ directives := by
  refine (hvisits.rest_isSuffix hrest).mem ?_
  rw [hahead]
  exact List.mem_cons_self

theorem History.directive_mem (hvisits : History directives path c visits c')
    (hrest : c.rest <:+ directives) : ∀ v ∈ visits, v.directive ∈ directives := by
  induction hvisits with
  | nil => simp
  | @snoc visits d ahead c' c'' hvisits hahead _ ih =>
      rw [List.forall_mem_append, List.forall_mem_singleton]
      exact ⟨ih, hvisits.mem_of_rest hrest hahead⟩

theorem History.run_add (hvisits : History directives path c visits c') (budget : Nat) :
    run directives path (visits.length + budget) c = run directives path budget c' := by
  induction hvisits generalizing budget with
  | nil => simp
  | snoc _ _ hstep ih =>
      rw [List.length_append, List.length_singleton, Nat.add_assoc, ih, Nat.add_comm 1 budget, run,
        hstep]

end Reroute.Pass
