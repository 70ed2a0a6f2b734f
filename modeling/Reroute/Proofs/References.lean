import Mathlib.Data.List.Infix
import Reroute.Reference
import Reroute.Rules.Directive

/-!
# What a text refers to

The value of a text depends on the variables that it refers to and on no others, and a variable
that it refers to is written out in it: what replaces a reference is never read for references.
-/

namespace Reroute

theorem Piece.expand_congr {α : Type} {value value' : α → Except Fault Text}
    {pieces : List (Piece α)} (h : ∀ r, .reference r ∈ pieces → value r = value' r) :
    expand value pieces = expand value' pieces := by
  induction pieces with
  | nil => rfl
  | cons piece rest ih =>
      have hrest := ih fun r hr => h r (List.mem_cons_of_mem _ hr)
      cases piece with
      | char c => rw [expand, expand, hrest]
      | reference r => rw [expand, expand, hrest, h r List.mem_cons_self]

def variableReference (name : Text) : Text := '%' :: '\x7b' :: (name ++ ['\x7d'])

/-- The reference that a scan finds is written where the scan has been. What it has read of a name
counts as still ahead of it. -/
theorem variableReference_isInfix_from (name : Text) (opened : Option Text) (t : Text) :
    .reference name ∈ variablePiecesFrom opened t →
      variableReference name <:+:
        match opened with
        | none => t
        | some start => '%' :: '\x7b' :: (start ++ t) := by
  fun_induction variablePiecesFrom opened t with
  | case1 opened => simp
  | case2 rest _ ih => exact ih
  | case3 rest _ ih =>
      intro h
      have hrest : .reference name ∈ variablePiecesFrom none rest := by simpa using h
      exact (ih hrest).trans ⟨['%', '\x7b'], [], by simp⟩
  | case4 c rest _ ih =>
      intro h
      have hrest : .reference name ∈ variablePiecesFrom none rest := by simpa using h
      exact (ih hrest).trans (List.suffix_cons c rest).isInfix
  | case5 start rest ih =>
      intro h
      have hcases : name = start ∨ .reference name ∈ variablePiecesFrom none rest := by
        simpa using h
      rcases hcases with rfl | hrest
      · exact ⟨[], rest, by simp [variableReference]⟩
      · exact (ih hrest).trans ⟨'%' :: '\x7b' :: (start ++ ['\x7d']), [], by simp⟩
  | case6 start c rest _ ih =>
      intro h
      simpa using ih h

theorem variableReference_isInfix {name t : Text} (h : .reference name ∈ variablePieces t) :
    variableReference name <:+: t :=
  variableReference_isInfix_from name none t h

/-! ### Texts whose references all have a value -/

namespace Piece

variable {α : Type} {value : α → Except Fault Text} {pieces : List (Piece α)}

theorem expand_char (value : α → Except Fault Text) (t : Text) :
    expand value (t.map .char) = .ok t := by
  induction t with
  | nil => rfl
  | cons c rest ih =>
      rw [List.map_cons, expand, ih]
      rfl

def references (pieces : List (Piece α)) : List α :=
  pieces.filterMap fun
    | .char _ => none
    | .reference r => some r

theorem mem_references {r : α} : r ∈ references pieces ↔ .reference r ∈ pieces := by
  unfold references
  rw [List.mem_filterMap]
  constructor
  · rintro ⟨piece | other, hpiece, hsome⟩
    · cases hsome
    · rwa [← Option.some.inj hsome]
  · intro hpiece
    exact ⟨_, hpiece, rfl⟩

end Piece

theorem variablePieces_of_not_mem {t : Text} (h : '%' ∉ t) : variablePieces t = t.map .char := by
  induction t with
  | nil => rfl
  | cons c rest ih =>
      rw [List.mem_cons, not_or] at h
      have hrest : variablePiecesFrom none rest = rest.map .char := ih h.2
      rw [variablePieces, variablePiecesFrom, hrest, List.map_cons]
      rintro rest' rfl
      exact absurd rfl h.1

theorem groupPieces_of_not_mem {sigil : Char} {t : Text} (h : sigil ∉ t) :
    groupPieces sigil t = t.map .char := by
  fun_induction groupPieces sigil t with
  | case1 => rfl
  | case2 c => rfl
  | case3 c d rest hreference ih => simp [hreference.1] at h
  | case4 c d rest _ ih =>
      rw [ih (List.not_mem_of_not_mem_cons h)]
      rfl

theorem reference_mem_groupPieces_iff {sigil : Char} (hsigil : Unicode.Digit.isDigit sigil = false)
    {t : Text} {index : Nat} :
    .reference index ∈ groupPieces sigil t ↔
      ∃ digit, Unicode.Digit.isDigit digit = true ∧ [sigil, digit] <:+: t ∧
        Unicode.Digit.asciiValue digit = index := by
  fun_induction groupPieces sigil t with
  | case1 => simp
  | case2 c => simp [List.infix_cons_iff]
  | case3 c d rest hreference ih =>
      obtain ⟨rfl, hdigit⟩ := hreference
      -- What follows a sigil is a digit, so that no other reference begins there.
      have hne : c ≠ d := by
        rintro rfl
        simp [hsigil] at hdigit
      have hplace : ∀ digit, [c, digit] <:+: c :: d :: rest ↔ digit = d ∨ [c, digit] <:+: rest := by
        intro digit
        simp [List.infix_cons_iff, hne]
      simp only [List.mem_cons, Piece.reference.injEq, ih, hplace]
      constructor
      · rintro (rfl | ⟨digit, hisDigit, hrest, hvalue⟩)
        · exact ⟨d, hdigit, .inl rfl, rfl⟩
        · exact ⟨digit, hisDigit, .inr hrest, hvalue⟩
      · rintro ⟨digit, hisDigit, rfl | hrest, hvalue⟩
        · exact .inl hvalue.symm
        · exact .inr ⟨digit, hisDigit, hrest, hvalue⟩
  | case4 c d rest hreference ih =>
      have hplace : ∀ digit, Unicode.Digit.isDigit digit = true →
          ([sigil, digit] <:+: c :: d :: rest ↔ [sigil, digit] <:+: d :: rest) := by
        intro digit hdigit
        have hprefix : ¬ [sigil, digit] <+: c :: d :: rest := by
          intro hprefix
          obtain ⟨rfl, rfl⟩ : sigil = c ∧ digit = d := by simpa using hprefix
          exact hreference ⟨rfl, hdigit⟩
        rw [List.infix_cons_iff, or_iff_right hprefix]
      have hchar : .reference index ∈ Piece.char c :: groupPieces sigil (d :: rest) ↔
          .reference index ∈ groupPieces sigil (d :: rest) := by simp
      rw [hchar, ih]
      exact exists_congr fun digit => and_congr_right fun hdigit =>
        and_congr_left' (hplace digit hdigit).symm

/-! ### What a directive mentions -/

namespace Directive

def expanded? : Directive → Option Text
  | .condition c => some c.subject
  | .rule r =>
    match r.substitution with
    | .keep => none
    | .target target => some target

/-- Whether a directive has a reference to a variable written in the text that it expands. -/
def Mentions (d : Directive) (name : Text) : Prop :=
  ∃ t, d.expanded? = some t ∧ variableReference name <:+: t

instance (d : Directive) (name : Text) : Decidable (d.Mentions name) :=
  match h : d.expanded? with
  | none => .isFalse (by simp [Mentions, h])
  | some t => decidable_of_iff (variableReference name <:+: t) (by simp [Mentions, h])

end Directive

end Reroute
