import Reroute.Proofs.Pass.History

/-!
# Two passes side by side

Two passes whose visits keep a relation keep it to their ends: both settle, both end in a fault,
or both spend their budget (`run_alike`). A relation of passes is then a relation of single visits.
-/

namespace Reroute

/-- Two results are alike if both are faults that are alike or both are values that are alike. -/
inductive Alike {ε ε' α β : Type} (E : ε → ε' → Prop) (R : α → β → Prop) :
    Except ε α → Except ε' β → Prop
  | error {e : ε} {e' : ε'} (h : E e e') : Alike E R (.error e) (.error e')
  | ok {a : α} {b : β} (h : R a b) : Alike E R (.ok a) (.ok b)

namespace Alike

variable {ε ε' φ α β γ δ : Type} {E : ε → ε' → Prop} {R : α → β → Prop} {S : γ → δ → Prop}
  {x : Except ε α} {y : Except ε' β}

theorem refl {R : α → α → Prop} (x : Except ε α) (hR : ∀ a, R a a) : Alike Eq R x x := by
  cases x with
  | error e => exact .error rfl
  | ok a => exact .ok (hR a)

theorem imp {S : α → β → Prop} (h : Alike E R x y) (hS : ∀ a b, R a b → S a b) :
    Alike E S x y := by
  cases h with
  | error h => exact .error h
  | ok h => exact .ok (hS _ _ h)

theorem map {f : α → γ} {g : β → δ} (h : Alike E R x y) (hS : ∀ a b, R a b → S (f a) (g b)) :
    Alike E S (x.map f) (y.map g) := by
  cases h with
  | error h => exact .error h
  | ok h => exact .ok (hS _ _ h)

theorem of_map {f : α → γ} {g : β → δ} (h : Alike E S (x.map f) (y.map g)) :
    Alike E (fun a b => S (f a) (g b)) x y := by
  cases x with
  | error e =>
      cases y with
      | error e' => cases h with | error h => exact .error h
      | ok b => cases h
  | ok a =>
      cases y with
      | error e' => cases h
      | ok b => cases h with | ok h => exact .ok h

theorem eq {x y : Except ε α} (h : Alike Eq Eq x y) : x = y := by
  cases h with
  | error h => rw [h]
  | ok h => rw [h]

theorem map_eq {y : Except ε α} {f : α → γ} {g : ε → φ}
    (h : Alike (fun e e' => g e = g e') (fun a b => f a = f b) x y) :
    (x.map f).mapError g = (y.map f).mapError g := by
  cases h with
  | error h => simp [Except.map, Except.mapError, h]
  | ok h => simp [Except.map, Except.mapError, h]

end Alike

namespace Pass

variable {directives directives' : List Directive} {path path' : Text}
  {R : Config → Config → Prop} {E : Evaluation → Evaluation → Prop} {F : Failure → Failure → Prop}

theorem step_alike_of_visit {c e : Config} {d d' : Directive} {ahead ahead' : List Directive}
    {S : State → State → Prop} (hrest : c.rest = d :: ahead) (hrest' : e.rest = d' :: ahead')
    (hvisit : Alike Eq (fun a b => S a.1 b.1 ∧ a.2 = b.2) (d.visit path c.state)
      (d'.visit path' e.state))
    (hfault : ∀ fault, E ⟨fault, d.line, d.text, c.state.url⟩ ⟨fault, d'.line, d'.text, e.state.url⟩)
    (hpass : ∀ s t, S s t → R (c.pass ahead s) (e.pass ahead' t))
    (hfire : ∀ s t course, S s t →
      R (c.fire directives ahead d.line s course) (e.fire directives' ahead' d'.line t course)) :
    Option.Rel (Alike E R) (step directives path c) (step directives' path' e) := by
  rw [step_of_rest hrest, step_of_rest hrest']
  refine .some ?_
  generalize d.visit path c.state = x at hvisit ⊢
  generalize d'.visit path' e.state = y at hvisit ⊢
  cases hvisit with
  | @error fault _ hsame =>
      subst hsame
      exact .error (hfault fault)
  | @ok a b hab =>
      obtain ⟨s, course⟩ := a
      obtain ⟨t, _⟩ := b
      obtain ⟨hstate, rfl⟩ := hab
      cases course with
      | none => exact .ok (hpass s t hstate)
      | some course => exact .ok (hfire s t course hstate)

/-- Passes go side by side for as long as their budget lasts, if every visit that it allows for keeps
a relation. The relation may speak of the budget that is left. -/
theorem run_alike_within {R : Nat → Config → Config → Prop}
    (hstep : ∀ left c d, R (left + 1) c d →
      Option.Rel (Alike E (R left)) (step directives path c) (step directives' path' d))
    (hrest : ∀ c d, R 0 c d → (c.rest = [] ↔ d.rest = []))
    (hfault : ∀ e e', E e e' → F (.evaluation e) (.evaluation e'))
    (hspent : ∀ c d, R 0 c d →
      F (.unsettled c.processed c.state.url) (.unsettled d.processed d.state.url))
    (budget : Nat) {c d : Config} (h : R budget c d) :
    Alike F (fun c d => ∃ left, R left c d) (run directives path budget c)
      (run directives' path' budget d) := by
  induction budget generalizing c d with
  | zero =>
      -- The budget is spent: both passes are at their end, or both fail where they are.
      have hends := hrest c d h
      unfold run
      by_cases hc : c.rest = []
      · rw [if_pos (by simp [hc]), if_pos (by simp [hends.mp hc])]
        exact .ok ⟨0, h⟩
      · rw [if_neg (by simp [hc]), if_neg (by simp [mt hends.mpr hc])]
        exact .error (hspent c d h)
  | succ left ih =>
      have hrel := hstep left c d h
      unfold run
      generalize step directives path c = x at hrel ⊢
      generalize step directives' path' d = y at hrel ⊢
      cases hrel with
      | none => exact .ok ⟨left + 1, h⟩
      | some hresult =>
          cases hresult with
          | error he => exact .error (hfault _ _ he)
          | ok hc => exact ih hc

/-- **Passes go side by side** as far as a relation does that every visit keeps. -/
theorem run_alike
    (hstep : ∀ c d, R c d →
      Option.Rel (Alike E R) (step directives path c) (step directives' path' d))
    (hfault : ∀ e e', E e e' → F (.evaluation e) (.evaluation e'))
    (hspent : ∀ c d, R c d →
      F (.unsettled c.processed c.state.url) (.unsettled d.processed d.state.url))
    (budget : Nat) {c d : Config} (h : R c d) :
    Alike F R (run directives path budget c) (run directives' path' budget d) := by
  have hrest : ∀ c d, R c d → (c.rest = [] ↔ d.rest = []) := by
    intro c d h
    have hrel := hstep c d h
    rw [← @step_eq_none_iff directives path c, ← @step_eq_none_iff directives' path' d]
    generalize step directives path c = x at hrel ⊢
    generalize step directives' path' d = y at hrel ⊢
    cases hrel <;> simp
  have hrun := run_alike_within (R := fun _ => R) (fun _ => hstep) hrest hfault hspent budget h
  exact hrun.imp fun _ _ ⟨_, h⟩ => h

theorem History.exists_alike {c d c' : Config} {visits : List Visit}
    (hstep : ∀ c d, R c d →
      Option.Rel (Alike E R) (step directives path c) (step directives' path' d))
    (hrest : ∀ c d, R c d → c.rest = d.rest)
    (hvisits : History directives path c visits c') (h : R c d) :
    ∃ visits' d', History directives' path' d visits' d' ∧ R c' d' ∧
      visits'.map Visit.directive = visits.map Visit.directive := by
  induction hvisits with
  | nil => exact ⟨[], d, .nil, h, rfl⟩
  | @snoc visits e ahead c' c'' _ hahead hstep' ih =>
      obtain ⟨visits', d', hvisits', h', hsame⟩ := ih
      have hrel := hstep c' d' h'
      rw [hstep'] at hrel
      generalize hy : step directives' path' d' = y at hrel
      cases hrel with
      | some hresult =>
          cases hresult with
          | ok hc =>
              have hahead' : d'.rest = e :: ahead := by rw [← hrest c' d' h', hahead]
              refine ⟨_, _, hvisits'.snoc hahead' hy, hc, ?_⟩
              simp [hsame]

end Pass

end Reroute
