import Mathlib.Data.List.Chain
import Reroute.Proofs.Scan

/-!
# Expansion in one go

An expansion takes three steps, and each scans what the one before has written. So a reference may
come out of a value, or arise where a value meets the text around it: the steps are not one
replacement in general. They are one if no value brings in a sigil of a later step and no character
that is a sigil stands directly in front of a reference. What carries this from step to step is that
every sigil among the characters is guarded: the text ends behind it, or a character follows that is
no digit. The references of the later steps are then those of the text that the expansion began with.
-/

namespace Reroute

namespace Piece

variable {value : Reference → Except Fault Text} {k : Reference.Kind}

/-- What a step leaves of a piece: a reference of its kind becomes the characters of the value. -/
def fill (value : Reference → Except Fault Text) (k : Reference.Kind) :
    Piece Reference → List (Piece Reference)
  | .char c => [.char c]
  | .reference r => if r.kind = k then (filled value (.reference r)).map .char else [.reference r]

theorem flatMap_text_map_char (t : Text) : (t.map Piece.char).flatMap Piece.text = t := by
  induction t with
  | nil => rfl
  | cons c rest ih => rw [List.map_cons, List.flatMap_cons, ih]; rfl

theorem flatMap_fill_map_char (t : Text) :
    (t.map Piece.char).flatMap (fill value k) = t.map .char := by
  induction t with
  | nil => rfl
  | cons c rest ih => rw [List.map_cons, List.flatMap_cons, ih]; rfl

theorem references_flatMap_fill (pieces : List (Piece Reference)) :
    references (pieces.flatMap (fill value k)) = (references pieces).filter (·.kind ≠ k) := by
  have hchars : ∀ t : Text, references (t.map (Piece.char (α := Reference))) = [] := by
    intro t
    simp [references, List.filterMap_map]
  induction pieces with
  | nil => rfl
  | cons piece rest ih =>
      rw [List.flatMap_cons, references, List.filterMap_append]
      change references (fill value k piece) ++ references _ = _
      rw [ih]
      cases piece with
      | char c => rfl
      | reference r =>
          by_cases hr : r.kind = k
          · rw [fill, if_pos hr, hchars]
            simp [references, hr]
          · rw [fill, if_neg hr]
            simp [references, hr]

theorem reference_mem_flatMap_fill {pieces : List (Piece Reference)} {r : Reference} :
    .reference r ∈ pieces.flatMap (fill value k) ↔ .reference r ∈ pieces ∧ r.kind ≠ k := by
  rw [← mem_references, references_flatMap_fill, List.mem_filter, mem_references, decide_eq_true_iff]

theorem flatMap_fill_all (pieces : List (Piece Reference)) :
    (((pieces.flatMap (fill value .var)).flatMap (fill value (.group .condition))).flatMap
      (fill value (.group .rule))).flatMap Piece.text = pieces.flatMap (filled value) := by
  simp only [List.flatMap_assoc]
  refine List.flatMap_congr fun piece _ => ?_
  simp only [← List.flatMap_assoc]
  cases piece with
  | char c => rfl
  | reference r =>
      -- The step of its kind replaces the reference, and the steps behind it copy the value.
      cases hr : r.kind with
      | var => simp [fill, hr, flatMap_fill_map_char, flatMap_text_map_char]
      | group source =>
          cases source <;> simp [fill, hr, flatMap_fill_map_char, flatMap_text_map_char]

end Piece

/-! ### Sigils among the characters -/

/-- A sigil among the characters begins no reference: the pieces end behind it, or a character
follows that is no digit. -/
def Guarded (sigil : Char) (pieces : List (Piece Reference)) : Prop :=
  pieces.IsChain fun before after =>
    before = .char sigil → ∃ c, after = .char c ∧ Unicode.Digit.isDigit c = false

namespace Guarded

variable {p : Reference → Prop} {t : Text} {pieces : List (Piece Reference)} {sigil : Char}
  {value : Reference → Except Fault Text} {k : Reference.Kind}

theorem of_scanned {source : GroupSource} (hp : ∀ r : Reference, r.kind = .group source → p r)
    (hseam : ∀ c r, [.char c, .reference r] <:+: pieces → c ≠ source.sigil)
    (h : Scanned p t pieces) : Guarded source.sigil pieces := by
  induction h with
  | nil => exact .nil
  | @char c rest pieces hnone hrest ih =>
      have htail := ih fun c' r hwithin =>
        hseam c' r (hwithin.trans (List.suffix_cons _ pieces).isInfix)
      refine List.isChain_cons.mpr ⟨?_, htail⟩
      intro after hafter hsigil
      obtain rfl := Piece.char.inj hsigil
      obtain ⟨others, rfl⟩ := List.head?_eq_some_iff.mp hafter
      cases after with
      | reference r => exact absurd rfl (hseam _ r ⟨[], others, rfl⟩)
      | char d =>
          refine ⟨d, rfl, ?_⟩
          by_contra hdigit
          have hdecimal : Unicode.Digit.isDigit d = true := by simpa using hdigit
          have hnone := hnone (.group source d hdecimal) (hp _ rfl)
          rw [← hrest.flatMap_text] at hnone
          exact hnone ⟨others.flatMap Piece.text, rfl⟩
  | @reference r t rest pieces _ _ _ ih =>
      have htail := ih fun c r' hwithin =>
        hseam c r' (hwithin.trans (List.suffix_cons _ pieces).isInfix)
      refine List.isChain_cons.mpr ⟨?_, htail⟩
      intro _ _ hsigil
      cases hsigil

/-- Values without the sigil keep it guarded, the empty ones included. -/
theorem flatMap_fill (h : Guarded sigil pieces)
    (hvalues : ∀ r, .reference r ∈ pieces → r.kind = k → sigil ∉ Piece.filled value (.reference r)) :
    Guarded sigil (pieces.flatMap (Piece.fill value k)) := by
  induction pieces with
  | nil => exact .nil
  | cons piece rest ih =>
      obtain ⟨hnext, hrest⟩ := List.isChain_cons.mp h
      have htail := ih hrest fun r hr => hvalues r (List.mem_cons_of_mem _ hr)
      rw [List.flatMap_cons]
      cases piece with
      | char c =>
          refine List.isChain_cons.mpr ⟨?_, htail⟩
          intro after hafter hsigil
          cases rest with
          | nil => cases hafter
          | cons next others =>
              -- What stands behind a sigil is a character, and a step leaves it there.
              obtain ⟨d, rfl, hdigit⟩ := hnext next rfl hsigil
              obtain rfl : Piece.char d = after := by simpa [Piece.fill] using hafter
              exact ⟨d, rfl, hdigit⟩
      | reference r =>
          by_cases hr : r.kind = k
          · have habsent := hvalues r List.mem_cons_self hr
            rw [Piece.fill, if_pos hr]
            generalize Piece.filled value (.reference r) = text at habsent
            induction text with
            | nil => exact htail
            | cons c text ihtext =>
                rw [List.mem_cons, not_or] at habsent
                refine List.isChain_cons.mpr ⟨fun _ _ hsigil => ?_, ihtext habsent.2⟩
                exact absurd (Piece.char.inj hsigil).symm habsent.1
          · rw [Piece.fill, if_neg hr]
            refine List.isChain_cons.mpr ⟨?_, htail⟩
            intro _ _ hsigil
            cases hsigil

/-- With all sigils guarded, the scan of a text that pieces make up finds these pieces again. -/
theorem scanned (hkind : ∀ r, p r → ∃ source, r.kind = .group source ∧ Guarded source.sigil pieces)
    (hreferences : ∀ r, .reference r ∈ pieces → p r) :
    Scanned p (pieces.flatMap Piece.text) pieces := by
  induction pieces with
  | nil => exact .nil
  | cons piece rest ih =>
      have htail := ih
        (fun r hr => (hkind r hr).imp fun source h => ⟨h.1, (List.isChain_cons.mp h.2).2⟩)
        fun r hr => hreferences r (List.mem_cons_of_mem _ hr)
      cases piece with
      | reference r => exact .reference (hreferences r List.mem_cons_self) rfl htail
      | char c =>
          refine .char (fun r hr hwritten => ?_) htail
          obtain ⟨source, hsource, hguarded⟩ := hkind r hr
          cases r with
          | var name closed => cases hsource
          | group source' digit decimal =>
              obtain rfl := Reference.Kind.group.inj hsource
              obtain ⟨rfl, hdigit⟩ := List.cons_prefix_cons.mp hwritten
              cases rest with
              | nil => simp at hdigit
              | cons next others =>
                  obtain ⟨d, rfl, hnot⟩ := (List.isChain_cons.mp hguarded).1 next rfl rfl
                  obtain rfl := (List.cons_prefix_cons.mp hdigit).1
                  rw [decimal] at hnot
                  cases hnot

end Guarded

/-! ### Three steps as one -/

section Steps

variable {env : Environment} {url : Text} {condition : Option Groups} {rule : Groups}
  {p : Reference → Prop} {t : Text} {pieces : List (Piece Reference)} {k : Reference.Kind}

def Reference.Kind.fault? (value : Reference → Except Fault Text) (k : Reference.Kind)
    (pieces : List (Piece Reference)) : Option Fault :=
  ((Piece.references pieces).filter (·.kind = k)).findSome? (Piece.fault? value)

theorem Reference.Kind.fault?_flatMap_fill {value : Reference → Except Fault Text}
    {k' : Reference.Kind} (hne : k ≠ k') :
    k.fault? value (pieces.flatMap (Piece.fill value k')) = k.fault? value pieces := by
  unfold fault?
  rw [Piece.references_flatMap_fill, List.filter_filter]
  congr 1
  refine List.filter_congr fun r _ => ?_
  by_cases hr : r.kind = k <;> simp [hr, hne]

theorem Reference.Kind.expand_eq_fill (hk : ∀ r : Reference, r.kind = k → p r)
    (hgroup : ∀ r, p r → r.kind ≠ k → r.kind ≠ .var) (h : Scanned p t pieces) :
    k.expand env url condition rule t =
      resultOf (k.fault? (Reference.value env url condition rule) pieces)
        ((pieces.flatMap (Piece.fill (Reference.value env url condition rule) k)).flatMap
          Piece.text) := by
  rw [expand_eq_of_scanned hk hgroup h, Piece.expand_eq]
  generalize Reference.value env url condition rule = value
  have hfault : (Piece.references pieces).findSome?
      (Piece.fault? fun r => if r.kind = k then value r else .ok r.text) = k.fault? value pieces := by
    unfold fault?
    induction Piece.references pieces with
    | nil => rfl
    | cons r rest ih =>
        by_cases hr : r.kind = k
        · simp [List.findSome?_cons, Piece.fault?, hr, ih]
        · simp [Piece.fault?, hr, ih]
  have hfilled : pieces.flatMap
      (Piece.filled fun r => if r.kind = k then value r else .ok r.text) =
        (pieces.flatMap (Piece.fill value k)).flatMap Piece.text := by
    rw [List.flatMap_assoc]
    refine List.flatMap_congr fun piece _ => ?_
    cases piece with
    | char c => rfl
    | reference r =>
        by_cases hr : r.kind = k
        · rw [Piece.fill, if_pos hr, Piece.flatMap_text_map_char, Piece.filled, Piece.filled, if_pos hr]
        · rw [Piece.fill, if_neg hr, Piece.filled, if_neg hr]
          simp [Piece.text, Except.toOption]
  rw [hfault, hfilled]

theorem Reference.Kind.fault?_eq_none_iff {value : Reference → Except Fault Text} :
    k.fault? value pieces = none ↔
      ∀ r, .reference r ∈ pieces → r.kind = k → ∃ text, value r = .ok text := by
  simp [fault?, List.findSome?_eq_none_iff, Piece.mem_references, Piece.fault?_eq_none_iff]

theorem Piece.not_mem_filled {value : Reference → Except Fault Text} {r : Reference} {c : Char}
    (habsent : ∀ text, value r = .ok text → c ∉ text) : c ∉ filled value (.reference r) := by
  cases hvalue : value r with
  | error fault => simp [filled, hvalue, Except.toOption]
  | ok text => simpa [filled, hvalue, Except.toOption] using habsent text hvalue

/-- The references of a scan stay apart: none stands directly behind a percent or dollar sign, the
variables have neither in their values, and the groups of the condition have no dollar sign. The
groups of the rule may have both. -/
structure Apart (value : Reference → Except Fault Text) (pieces : List (Piece Reference)) : Prop where
  seam : ∀ c r, [.char c, .reference r] <:+: pieces → c ≠ '%' ∧ c ≠ '$'
  variableValues : ∀ r text, .reference r ∈ pieces → r.kind = .var → value r = .ok text →
    '%' ∉ text ∧ '$' ∉ text
  conditionValues : ∀ r text, .reference r ∈ pieces → r.kind = .group .condition → value r = .ok text →
    '$' ∉ text

namespace Apart

variable {value : Reference → Except Fault Text}

theorem guarded_fill (h : Apart value pieces) (hscan : Scanned (fun _ => True) t pieces)
    (source : GroupSource) : Guarded source.sigil (pieces.flatMap (Piece.fill value .var)) := by
  have hseam : ∀ c r, [.char c, .reference r] <:+: pieces → c ≠ source.sigil := by
    intro c r hwithin
    cases source with
    | condition => exact (h.seam c r hwithin).1
    | rule => exact (h.seam c r hwithin).2
  refine (Guarded.of_scanned (fun _ _ => trivial) hseam hscan).flatMap_fill fun r hr hkind => ?_
  refine Piece.not_mem_filled fun text htext => ?_
  cases source with
  | condition => exact (h.variableValues r text hr hkind htext).1
  | rule => exact (h.variableValues r text hr hkind htext).2

theorem scanned_groups (h : Apart value pieces) (hscan : Scanned (fun _ => True) t pieces) :
    Scanned (·.kind ≠ .var) ((pieces.flatMap (Piece.fill value .var)).flatMap Piece.text)
      (pieces.flatMap (Piece.fill value .var)) := by
  refine Guarded.scanned (fun r hr => ?_) fun r hr => (Piece.reference_mem_flatMap_fill.mp hr).2
  cases r with
  | var name closed => exact absurd rfl hr
  | group source digit decimal => exact ⟨source, rfl, h.guarded_fill hscan source⟩

theorem scanned_rule (h : Apart value pieces) (hscan : Scanned (fun _ => True) t pieces) :
    Scanned (·.kind = .group .rule)
      (((pieces.flatMap (Piece.fill value .var)).flatMap
        (Piece.fill value (.group .condition))).flatMap Piece.text)
      ((pieces.flatMap (Piece.fill value .var)).flatMap (Piece.fill value (.group .condition))) := by
  have hguarded : Guarded GroupSource.rule.sigil ((pieces.flatMap
      (Piece.fill value .var)).flatMap (Piece.fill value (.group .condition))) := by
    refine (h.guarded_fill hscan .rule).flatMap_fill fun r hr hkind => ?_
    have hbefore := (Piece.reference_mem_flatMap_fill.mp hr).1
    exact Piece.not_mem_filled fun text htext => h.conditionValues r text hbefore hkind htext
  refine Guarded.scanned (fun r hr => ⟨.rule, hr, hguarded⟩) fun r hr => ?_
  obtain ⟨hbefore, hcondition⟩ := Piece.reference_mem_flatMap_fill.mp hr
  have hvar := (Piece.reference_mem_flatMap_fill.mp hbefore).2
  cases hkind : r.kind with
  | var => exact absurd hkind hvar
  | group source =>
      cases source with
      | condition => exact absurd hkind hcondition
      | rule => rfl

end Apart

theorem Environment.expandAll_eq_of_apart (hscan : Scanned (fun _ => True) t pieces)
    (hapart : Apart (Reference.value env url condition rule) pieces) :
    env.expandAll url condition rule t =
      resultOf
        (Reference.Kind.fault? (Reference.value env url condition rule) .var pieces <|>
          Reference.Kind.fault? (Reference.value env url condition rule) (.group .condition) pieces <|>
          Reference.Kind.fault? (Reference.value env url condition rule) (.group .rule) pieces)
        (pieces.flatMap (Piece.filled (Reference.value env url condition rule))) := by
  change (do
    let t ← Reference.Kind.expand env url condition rule .var t
    let t ← Reference.Kind.expand env url condition rule (.group .condition) t
    Reference.Kind.expand env url condition rule (.group .rule) t) = _
  have hgroups := hapart.scanned_groups hscan
  have hrule := hapart.scanned_rule hscan
  rw [Reference.Kind.expand_eq_fill (fun _ _ => trivial) (fun _ _ hr => hr) hscan]
  cases Reference.Kind.fault? (Reference.value env url condition rule) .var pieces with
  | some fault => rfl
  | none =>
      dsimp only [resultOf, bind, Except.bind]
      rw [Reference.Kind.expand_eq_fill (fun r hr => by simp [hr]) (fun _ hr _ => hr) hgroups,
        Reference.Kind.fault?_flatMap_fill (by decide)]
      cases Reference.Kind.fault? (Reference.value env url condition rule) (.group .condition)
        pieces with
      | some fault => rfl
      | none =>
          dsimp only [resultOf]
          rw [Reference.Kind.expand_eq_fill (fun _ hr => hr) (fun _ hr hne => absurd hr hne) hrule,
            Reference.Kind.fault?_flatMap_fill (by decide),
            Reference.Kind.fault?_flatMap_fill (by decide), Piece.flatMap_fill_all]
          rfl

/-- **An expansion replaces all references at once if no value can bring in another.** The text is
scanned once, for references of all kinds. If they stay apart, the three steps have a result just
when every reference has a value, and the result is the text with each reference replaced by its
value. Otherwise the leftmost variable without a value decides what is wrong, then the leftmost group
of the condition, then the leftmost group of the rule. -/
theorem Environment.expandAll_eq_at_once (env : Environment) (url : Text) (condition : Option Groups)
    (rule : Groups) (hscan : Scanned (fun _ => True) t pieces)
    (hapart : Apart (Reference.value env url condition rule) pieces) :
    ((∃ text, env.expandAll url condition rule t = .ok text) ↔
      ∀ r, .reference r ∈ pieces → ∃ text, r.value env url condition rule = .ok text) ∧
    env.expandAll url condition rule t =
      resultOf
        (Reference.Kind.fault? (Reference.value env url condition rule) .var pieces <|>
          Reference.Kind.fault? (Reference.value env url condition rule) (.group .condition) pieces <|>
          Reference.Kind.fault? (Reference.value env url condition rule) (.group .rule) pieces)
        (pieces.flatMap (Piece.filled (Reference.value env url condition rule))) := by
  have hequation := expandAll_eq_of_apart hscan hapart
  refine ⟨?_, hequation⟩
  rw [hequation]
  -- There is a result just when nothing is wrong with any kind of reference.
  have hfaults : (∀ r, .reference r ∈ pieces →
      ∃ text, r.value env url condition rule = .ok text) ↔
        ∀ k : Reference.Kind, k.fault? (Reference.value env url condition rule) pieces = none := by
    simp only [Reference.Kind.fault?_eq_none_iff]
    exact ⟨fun h _ r hr _ => h r hr, fun h r hr => h r.kind r hr rfl⟩
  rw [hfaults]
  constructor
  · rintro ⟨text, hresult⟩ k
    obtain ⟨hvar, hcondition, hrule⟩ := by simpa using (resultOf_eq_ok_iff.mp hresult).1
    cases k with
    | var => exact hvar
    | group source =>
        cases source with
        | condition => exact hcondition
        | rule => exact hrule
  · intro hnone
    rw [hnone, hnone, hnone]
    exact ⟨_, rfl⟩

private def emptyVariable : Environment := ⟨[(['X'], .fixed [])]⟩

private def percentGroups : Groups := [some ['%', '2'], some ['%', '2']]

private def dollarGroups : Groups := [some ['$', '2', '%', '2'], some ['$', '2', '%', '2']]

private def unclosedText : Text :=
  ['/', '%', '\x7b', 'X', '\x7d', '%', '1', '$', '1', '%', '\x7b']

private def unclosedPieces : List (Piece Reference) := [
  .char '/', .reference (.var ['X'] (by decide)), .reference (.group .condition '1' (by decide)),
  .reference (.group .rule '1' (by decide)), .char '%', .char '\x7b']

/-- The value of the variable is empty, so that the group of the condition comes to stand behind the
slash. The groups look like references themselves, and the text ends with one that nothing closes. -/
theorem Environment.expandAll_eq_at_once_of_empty_value :
    Scanned (fun _ => True) unclosedText unclosedPieces ∧
    Apart (Reference.value emptyVariable [] (some percentGroups) dollarGroups) unclosedPieces ∧
    emptyVariable.expandAll [] (some percentGroups) dollarGroups unclosedText =
      .ok ['/', '%', '2', '$', '2', '%', '2', '%', '\x7b'] := by
  have hscan : Scanned (fun _ => True) unclosedText unclosedPieces := by
    refine .char (fun r _ hwritten => ?_) <| .reference trivial rfl <| .reference trivial rfl <|
      .reference trivial rfl <| .char (fun r _ hwritten => ?_) <| .char (fun r _ hwritten => ?_) .nil
    · rcases Reference.isPrefix_cons hwritten with h | h <;> cases h
    · cases r with
      | var name closed => simpa [Reference.text, variableReference] using hwritten.length_le
      | group source digit decimal =>
          have hdigit := (List.cons_prefix_cons.mp (List.cons_prefix_cons.mp hwritten).2).1
          subst hdigit
          cases decimal
    · rcases Reference.isPrefix_cons hwritten with h | h <;> cases h
  have hapart : Apart (Reference.value emptyVariable [] (some percentGroups) dollarGroups)
      unclosedPieces := by
    constructor
    · intro c r hwithin
      simp only [unclosedPieces, List.infix_cons_iff, List.cons_prefix_cons] at hwithin
      obtain ⟨rfl, -⟩ : c = '/' ∧ _ := by simpa using hwithin
      decide
    · intro r text hr hkind htext
      simp only [unclosedPieces, List.mem_cons] at hr
      rcases hr with h | h | h | h | h | h | h <;> cases h <;> cases hkind
      cases htext
      decide
    · intro r text hr hkind htext
      simp only [unclosedPieces, List.mem_cons] at hr
      rcases hr with h | h | h | h | h | h | h <;> cases h <;> cases hkind
      cases htext
      decide
  exact ⟨hscan, hapart, (expandAll_eq_at_once _ _ _ _ hscan hapart).2⟩

end Steps

end Reroute
