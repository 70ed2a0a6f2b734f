import Reroute.Criterion
import Reroute.Proofs.Captures
import Reroute.Proofs.CharSets
import Reroute.Proofs.Utf8

/-!
# Comparisons and opposite tests

A test compares a value with a text or searches it for a pattern. A value is equal to a text, less or
greater, and never two of these; less and greater are the two sides of one order, that of the bytes,
and this order knows no case. An exclamation mark makes the opposite of a test: it is valid exactly if
the test behind the mark is, and has the same groups. Only patterns come with groups, and there are as
many whether the value matches or not.
-/

namespace Reroute

/-! ### Opposites -/

def Verdict.negate (v : Verdict) : Verdict := { v with matched := !v.matched }

def Criterion.negate (c : Criterion) : Criterion := { c with negated := !c.negated }

theorem Criterion.judge_negate (c : Criterion) (value : Text) :
    c.negate.judge value = (c.judge value).negate := by
  simp [judge, negate, Verdict.negate]

theorem Text.cutNegation_of_head?_ne {t : Text} (h : t.head? ≠ some '!') :
    t.cutNegation = (false, t) := by
  unfold cutNegation
  split
  · simp at h
  · rfl

/-! ### Comparisons and patterns -/

namespace Comparand

variable {t : Text} {noCase : Bool}

/-- Whether a test without an exclamation mark is a pattern: it does not begin with the sign of a
comparison. -/
def IsPattern (t : Text) : Prop := ∀ sign ∈ ['=', '<', '>'], t.head? ≠ some sign

theorem ofText?_of_isPattern (h : IsPattern t) :
    ofText? t noCase = (Pattern.ofText? t noCase).map .pattern := by
  unfold ofText?
  split
  · exact absurd rfl (h '=' (by decide))
  · exact absurd rfl (h '<' (by decide))
  · exact absurd rfl (h '>' (by decide))
  · rfl

/-- A comparison is always valid, and has no groups. -/
theorem exists_of_not_isPattern (h : ¬ IsPattern t) (noCase : Bool) :
    ∃ comparand, ofText? t noCase = some comparand ∧
      ∀ value, (comparand.judge noCase value).groups = none := by
  simp only [IsPattern, not_forall, not_not] at h
  obtain ⟨sign, hsign, hhead⟩ := h
  obtain ⟨text, rfl⟩ := List.head?_eq_some_iff.mp hhead
  simp only [List.mem_cons, List.not_mem_nil, or_false] at hsign
  rcases hsign with rfl | rfl | rfl
  · exact ⟨.equal text, rfl, fun _ => rfl⟩
  · exact ⟨.less text, rfl, fun _ => rfl⟩
  · exact ⟨.greater text, rfl, fun _ => rfl⟩

theorem ofText?_eq_none_iff :
    ofText? t noCase = none ↔ IsPattern t ∧ Pattern.ofText? t noCase = none := by
  by_cases hpattern : IsPattern t
  · rw [ofText?_of_isPattern hpattern, Option.map_eq_none_iff, and_iff_right hpattern]
  · obtain ⟨comparand, hcomparand, -⟩ := exists_of_not_isPattern hpattern noCase
    simp [hcomparand, hpattern]

theorem exists_groups_pattern (p : Pattern) (noCase : Bool) (value : Text) :
    ∃ groups, ((pattern p).judge noCase value).groups = some groups ∧
      groups.length = p.groupCount := by
  rw [judge]
  cases hgroups : p.groups? value with
  | none => exact ⟨_, rfl, List.length_replicate⟩
  | some groups => exact ⟨groups, rfl, Pattern.length_of_groups? hgroups⟩

theorem groups_of_ofText? {comparand : Comparand} (h : ofText? t noCase = some comparand)
    (value : Text) :
    ((comparand.judge noCase value).groups.isSome = true ↔ IsPattern t) ∧
      ∀ groups, (comparand.judge noCase value).groups = some groups →
        ∃ pattern, Pattern.ofText? t noCase = some pattern ∧
          groups.length = pattern.groupCount := by
  by_cases hpattern : IsPattern t
  · rw [ofText?_of_isPattern hpattern] at h
    obtain ⟨pattern, hvalid, rfl⟩ := Option.map_eq_some_iff.mp h
    obtain ⟨found, hfound, hlength⟩ := exists_groups_pattern pattern noCase value
    refine ⟨by simp [hfound, hpattern], fun groups hgroups => ?_⟩
    obtain rfl := Option.some.inj (hfound.symm.trans hgroups)
    exact ⟨pattern, hvalid, hlength⟩
  · obtain ⟨comparison, hcomparison, hnone⟩ := exists_of_not_isPattern hpattern noCase
    obtain rfl := Option.some.inj (hcomparison.symm.trans h)
    simp [hnone value, hpattern]

end Comparand

/-! ### Tests -/

namespace Criterion

open Comparand

variable {p text value : Text} {noCase : Bool}

def verdict? (t : Text) (noCase : Bool) (value : Text) : Option Verdict :=
  (ofText? t noCase).map fun c => c.judge value

/-- Whether a test is valid and matches a value. -/
def accepts (t : Text) (noCase : Bool) (value : Text) : Bool :=
  (verdict? t noCase value).any (·.matched)

theorem ofText?_of_head?_ne (h : p.head? ≠ some '!') :
    ofText? p noCase =
      (Comparand.ofText? p noCase).map fun comparand => { comparand, negated := false, noCase } := by
  rw [ofText?, Text.cutNegation_of_head?_ne h]

theorem accepts_iff {comparand : Comparand} (h : p.head? ≠ some '!')
    (hcomparand : Comparand.ofText? p noCase = some comparand) :
    accepts p noCase value = true ↔ (comparand.judge noCase value).matched = true := by
  rw [accepts, verdict?, ofText?_of_head?_ne h, hcomparand]
  simp [judge]

theorem accepts_equal_iff : accepts ('=' :: text) false value = true ↔ value = text := by
  rw [accepts_iff (by simp) rfl]
  exact beq_iff_eq

theorem accepts_less_iff : accepts ('<' :: text) noCase value = true ↔ value < text := by
  rw [accepts_iff (by simp) rfl]
  exact decide_eq_true_iff

theorem accepts_greater_iff : accepts ('>' :: text) noCase value = true ↔ text < value := by
  rw [accepts_iff (by simp) rfl]
  exact decide_eq_true_iff

def signOf (value text : Text) : Char :=
  if value < text then '<' else if text < value then '>' else '='

theorem signOf_mem (value text : Text) : signOf value text ∈ ['=', '<', '>'] := by
  unfold signOf
  split_ifs <;> decide

theorem accepts_iff_eq_signOf {sign : Char} (hsign : sign ∈ ['=', '<', '>']) :
    accepts (sign :: text) false value = true ↔ sign = signOf value text := by
  simp only [List.mem_cons, List.not_mem_nil, or_false] at hsign
  unfold signOf
  rcases hsign with rfl | rfl | rfl
  · rw [accepts_equal_iff]
    split_ifs with hless hgreater
    · simp [hless.ne]
    · simp [hgreater.ne']
    · simp [le_antisymm (not_lt.mp hgreater) (not_lt.mp hless)]
  · rw [accepts_less_iff]
    split_ifs with hless hgreater <;> simp [hless]
  · rw [accepts_greater_iff]
    split_ifs with hless hgreater
    · simp [hless.asymm]
    · simp [hgreater]
    · simp [hgreater]

theorem existsUnique_accepts (text value : Text) :
    ∃! sign, sign ∈ ['=', '<', '>'] ∧ accepts (sign :: text) false value = true := by
  have hmem := signOf_mem value text
  refine ⟨signOf value text, ⟨hmem, (accepts_iff_eq_signOf hmem).mpr rfl⟩, ?_⟩
  rintro sign ⟨hsign, haccepts⟩
  exact (accepts_iff_eq_signOf hsign).mp haccepts

theorem ofText?_bang (h : p.head? ≠ some '!') :
    ofText? ('!' :: p) noCase = (ofText? p noCase).map negate := by
  rw [ofText?_of_head?_ne h, Option.map_map]
  rfl

theorem verdict?_bang (h : p.head? ≠ some '!') :
    verdict? ('!' :: p) noCase value = (verdict? p noCase value).map Verdict.negate := by
  rw [verdict?, verdict?, ofText?_bang h, Option.map_map, Option.map_map]
  congr 1
  funext c
  exact c.judge_negate value

theorem groups_of_verdict? {verdict : Verdict} (h : p.head? ≠ some '!')
    (hverdict : verdict? p noCase value = some verdict) :
    (verdict.groups.isSome = true ↔ IsPattern p) ∧
      ∀ groups, verdict.groups = some groups →
        ∃ pattern, Pattern.ofText? p noCase = some pattern ∧
          groups.length = pattern.groupCount := by
  rw [verdict?, ofText?_of_head?_ne h, Option.map_map] at hverdict
  obtain ⟨comparand, hcomparand, rfl⟩ := Option.map_eq_some_iff.mp hverdict
  exact groups_of_ofText? hcomparand value

/-- **The laws of tests.** Without disregard of case a value passes exactly one of the comparisons
with a text. Order disregards the switch for case, is transitive, and is that of the code points and
of the bytes; being less is being greater the other way round. An exclamation mark before a test that
has none makes no difference to whether it is valid, turns what it says into the opposite, and leaves
the groups as they are. There are groups if the test is a pattern and only then, one for every index
up to the largest that the pattern writes, whatever the value. -/
theorem comparison_laws (value : Text) (noCase : Bool) :
    (∀ text, ∃! sign, sign ∈ ['=', '<', '>'] ∧ accepts (sign :: text) false value = true) ∧
    (∀ text, ∀ sign ∈ ['<', '>'],
      verdict? (sign :: text) true value = verdict? (sign :: text) false value) ∧
    (∀ text : Text,
      (accepts ('<' :: text) noCase value = true ↔ accepts ('>' :: value) noCase text = true) ∧
      (accepts ('<' :: text) noCase value = true ↔ value.map Char.toNat < text.map Char.toNat) ∧
      (accepts ('<' :: text) noCase value = true ↔ Text.bytes value < Text.bytes text)) ∧
    (∀ middle upper, accepts ('<' :: middle) noCase value = true →
      accepts ('<' :: upper) noCase middle = true → accepts ('<' :: upper) noCase value = true) ∧
    ∀ p : Text, p.head? ≠ some '!' →
      (ofText? ('!' :: p) noCase = none ↔ ofText? p noCase = none) ∧
      (ofText? p noCase = none ↔ IsPattern p ∧ Pattern.ofText? p noCase = none) ∧
      verdict? ('!' :: p) noCase value = (verdict? p noCase value).map Verdict.negate ∧
      ∀ verdict, verdict? p noCase value = some verdict →
        (verdict.groups.isSome = true ↔ IsPattern p) ∧
        ∀ groups, verdict.groups = some groups → ∃ pattern node,
          Pattern.ofText? p noCase = some pattern ∧ groups.length = pattern.groupCount ∧
          Pattern.Node.ofText? p = some node ∧
          ∀ index, index < groups.length ↔ index = 0 ∨ ∃ i ∈ node.captures, index ≤ i := by
  refine ⟨fun text => existsUnique_accepts text value, ?_, ?_, ?_, ?_⟩
  · intro text sign hsign
    simp only [List.mem_cons, List.not_mem_nil, or_false] at hsign
    rcases hsign with rfl | rfl <;> rfl
  · intro text
    rw [accepts_less_iff, accepts_greater_iff]
    exact ⟨Iff.rfl, Text.map_toNat_lt_iff.symm, Text.bytes_lt_iff.symm⟩
  · intro middle upper hmiddle hupper
    rw [accepts_less_iff] at hmiddle hupper ⊢
    exact hmiddle.trans hupper
  · intro p hp
    refine ⟨?_, ?_, verdict?_bang hp, ?_⟩
    · rw [ofText?_bang hp, Option.map_eq_none_iff]
    · rw [ofText?_of_head?_ne hp, Option.map_eq_none_iff, ofText?_eq_none_iff]
    · intro verdict hverdict
      obtain ⟨hpattern, hlength⟩ := groups_of_verdict? hp hverdict
      refine ⟨hpattern, fun groups hgroups => ?_⟩
      obtain ⟨pattern, hvalid, hlength⟩ := hlength groups hgroups
      obtain ⟨node, hnode, hcount⟩ := Pattern.exists_lt_groupCount_iff hvalid
      exact ⟨pattern, node, hvalid, hlength, hnode, hlength ▸ hcount⟩

/-- A pattern with two groups that is not found comes with three that took no part, and so does its
opposite, which matches. -/
theorem comparison_laws_of_not_found :
    "^(x)|(y)$".toList.head? ≠ some '!' ∧ IsPattern "^(x)|(y)$".toList ∧
    verdict? "^(x)|(y)$".toList false "abc".toList =
      some { matched := false, groups := some (.unmatched 3) } ∧
    verdict? "!^(x)|(y)$".toList false "abc".toList =
      some { matched := true, groups := some (.unmatched 3) } := by
  have hbang : "^(x)|(y)$".toList.head? ≠ some '!' := by decide
  have hpattern : IsPattern "^(x)|(y)$".toList := by simp [IsPattern]
  have hnode : Pattern.Node.ofText? "^(x)|(y)$".toList = some (.alternation [
      .concat [.anchor .lineStart, .capture 1 (.literal ⟨'x', false⟩)],
      .concat [.capture 2 (.literal ⟨'y', false⟩), .anchor .lineEnd]]) := rfl
  have hmeaning : Pattern.Expr.ofText? "^(x)|(y)$".toList false = some (.choice [
      .concat [.look .start, .capture 1 (.text ['x'])],
      .concat [.capture 2 (.text ['y']), .look .stop]]) := by
    rw [Pattern.Expr.ofText?, hnode]
    simp [Pattern.Node.meaning?, Pattern.Node.meanings?, Pattern.Switches.literal?,
      Pattern.Switches.fold, Pattern.Switches.look, Pattern.Expr.ofSet_singleton,
      Pattern.Expr.ofParts, Pattern.Expr.parts, Pattern.Expr.joinTexts]
    rfl
  have hverdict : verdict? "^(x)|(y)$".toList false "abc".toList =
      some { matched := false, groups := some (.unmatched 3) } := by
    rw [verdict?, ofText?_of_head?_ne hbang, ofText?_of_isPattern hpattern,
      Pattern.ofText?_of_fits hmeaning (by decide +kernel)]
    decide +kernel
  obtain ⟨-, -, -, -, hopposite⟩ := comparison_laws "abc".toList false
  obtain ⟨-, -, hnegated, hgroups⟩ := hopposite "^(x)|(y)$".toList hbang
  rw [hverdict] at hnegated
  exact ⟨hbang, (hgroups _ hverdict).1.mp rfl, hverdict, hnegated⟩

end Criterion

end Reroute
