import Reroute.Proofs.CharSets
import Reroute.Rules.Directive

/-!
# Rules on one character

An ASCII character that stands for itself is a pattern that looks for its text, and a line with this
pattern gives a rule that does so. Short passes are made of such rules.
-/

namespace Reroute

/-- The pattern that looks for a character. -/
def Pattern.ofChar (c : Char) : Pattern := { groupCount := 1, program := .ofExpr (.text [c]) }

theorem Pattern.ofText?_of_literal {t : Text} {c : Char}
    (hnode : Node.ofText? t = some (.literal ⟨c, false⟩)) (hascii : c.toNat < 0x80)
    (hfits : (Expr.text [c]).fits = true) : ofText? t false = some (.ofChar c) := by
  refine ofText?_of_fits ?_ hfits
  rw [Expr.ofText?, hnode]
  simp [Node.meaning?, Switches.literal?, Switches.fold, Expr.ofSet_singleton hascii]

/-- The rule that a line with this character for its pattern gives, without the text of the line. -/
def Rule.onChar (line : Nat) (c : Char) (target : String) (flags : List String) : Rule where
  line := line
  text := []
  pattern := some (.ofChar c)
  negated := false
  substitution := .ofText target.toList
  flags := .ofTokens (flags.map (·.toList))

theorem Rule.ofFields_eq_onChar (line : Nat) (text : Text) (c : Char) (target : String)
    (flags : List String) (hnode : Pattern.Node.ofText? [c] = some (.literal ⟨c, false⟩))
    (hascii : c.toNat < 0x80) (hfits : (Pattern.Expr.text [c]).fits = true)
    (hplain : Text.cutNegation [c] = (false, [c]))
    (hcase : (RuleFlags.ofTokens (flags.map (·.toList))).noCase = false) :
    ofFields line text ⟨[c], target.toList, flags.map (·.toList)⟩ =
      { onChar line c target flags with text } := by
  simp [ofFields, onChar, hplain, hcase, Pattern.ofText?_of_literal hnode hascii hfits]

end Reroute
