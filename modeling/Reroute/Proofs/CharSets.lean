import Mathlib.Data.List.Nodup
import Reroute.Pattern.Basic

/-!
# Sets of characters

The ranges of a set come to stand in their order and are joined where they touch, and the points that
they hold stay the same. An ASCII character in a pattern stands for the text of this character.
-/

namespace Reroute

namespace Unicode.CharSet

/-- It does not matter in which order ranges are given, as long as their first points are all
different. -/
theorem ofRanges_of_perm {ranges sorted : List (Nat × Nat)} (hperm : ranges.Perm sorted)
    (hsorted : sorted.Pairwise (·.1 < ·.1)) : ofRanges ranges = ⟨joinRanges sorted⟩ := by
  have hmerged : (ranges.mergeSort fun a b => a.1 ≤ b.1).Perm sorted :=
    (List.mergeSort_perm ranges _).trans hperm
  have hascending : (ranges.mergeSort fun a b => a.1 ≤ b.1).Pairwise (·.1 ≤ ·.1) := by
    refine (List.pairwise_mergeSort (fun a b c hab hbc => ?_) (fun a b => ?_) ranges).imp
      of_decide_eq_true
    · simp only [decide_eq_true_eq] at hab hbc ⊢
      exact Nat.le_trans hab hbc
    · simp only [Bool.or_eq_true, decide_eq_true_eq]
      exact Nat.le_total a.1 b.1
  have hfirsts : (sorted.map Prod.fst).Nodup := List.pairwise_map.mpr (hsorted.imp Nat.ne_of_lt)
  have heq := hmerged.eq_of_pairwise
    (fun a b ha hb hle hge =>
      List.inj_on_of_nodup_map hfirsts (hmerged.subset ha) hb (Nat.le_antisymm hle hge))
    hascending (hsorted.imp Nat.le_of_lt)
  rw [ofRanges, heq]

end Unicode.CharSet

namespace Pattern

open Unicode (CharSet)

namespace Expr

/-! ### Without the surrogates -/

/-- Without the surrogates a set has one gap more, which comes to stand among the others. -/
theorem difference_surrogates {chars : CharSet} {below above : List (Nat × Nat)}
    (hgaps : chars.complement.ranges = below ++ above)
    (hsorted : (below ++ (0xD800, 0xDFFF) :: above).Pairwise (·.1 < ·.1)) :
    chars.difference surrogates =
      (CharSet.mk (CharSet.joinRanges (below ++ (0xD800, 0xDFFF) :: above))).complement := by
  have hsurrogates : surrogates.complement.complement = surrogates := by decide
  have hperm : (chars.complement.ranges ++ surrogates.ranges).Perm
      (below ++ (0xD800, 0xDFFF) :: above) := by
    rw [hgaps]
    exact (List.perm_append_singleton _ _).trans List.perm_middle.symm
  rw [CharSet.difference, CharSet.inter, hsurrogates, CharSet.union,
    CharSet.ofRanges_of_perm hperm hsorted]

theorem difference_surrogates_point {n : Nat} (h : n < 0x80) :
    (CharSet.mk [(n, n)]).difference surrogates = ⟨[(n, n)]⟩ := by
  cases n with
  | zero =>
      have hgaps : (CharSet.mk [(0, 0)]).complement.ranges = [(1, CharSet.maxPoint)] ++ [] := rfl
      rw [difference_surrogates hgaps (by decide)]
      decide
  | succ n =>
      have hgaps : (CharSet.mk [(n + 1, n + 1)]).complement.ranges =
          [(0, n), (n + 2, CharSet.maxPoint)] ++ [] := by
        simp [CharSet.complement, CharSet.gapsFrom, CharSet.maxPoint]
        omega
      rw [difference_surrogates hgaps (by simp; omega)]
      simp [CharSet.joinRanges, CharSet.joinRange, CharSet.complement, CharSet.gapsFrom,
        CharSet.maxPoint]

theorem ofSet_singleton {c : Char} (h : c.toNat < 0x80) : ofSet (.singleton c) = .text [c] := by
  rw [ofSet, CharSet.singleton, difference_surrogates_point h]
  simp

end Expr

theorem ofText?_of_fits {t : Text} {ignoreCase : Bool} {e : Expr}
    (hmeaning : Expr.ofText? t ignoreCase = some e) (hfits : e.fits = true) :
    ofText? t ignoreCase = some { groupCount := e.groupCount, program := .ofExpr e } := by
  simp [ofText?, hmeaning, hfits]

end Pattern

end Reroute
