import Mathlib.Data.List.Basic
import Mathlib.Order.MinMax
import Mathlib.Tactic.SplitIfs
import Reroute.Pattern.Basic

/-!
# The groups of a pattern

An expression in normal form differs from the pattern that was written: texts are joined, choices
between characters are sets, and what all branches of a choice start with stands in front of it once.
No group is lost by this, since parts that are the same in all branches have the same groups; only a
repetition of no rounds takes its groups away. A pattern thus has a group for every index up to the
largest that it writes.
-/

namespace Reroute.Pattern

theorem exists_mem_of_mapM {α β : Type} {f : α → Option β} {xs : List α} {ys : List β}
    (h : xs.mapM f = some ys) : ∀ x ∈ xs, ∃ y ∈ ys, f x = some y := by
  induction xs generalizing ys with
  | nil => simp
  | cons x xs ih =>
      simp only [List.mapM_cons, Option.bind_eq_bind, Option.bind_eq_some_iff, Option.pure_def,
        Option.some.injEq] at h
      obtain ⟨y, hy, ys, hys, rfl⟩ := h
      intro x' hx'
      rcases List.mem_cons.mp hx' with rfl | hx'
      · exact ⟨y, List.mem_cons_self, hy⟩
      · obtain ⟨y', hy', hx'⟩ := ih hys x' hx'
        exact ⟨y', List.mem_cons_of_mem _ hy', hx'⟩

namespace Expr

mutual

def captures : Expr → List Nat
  | .capture index body => index :: captures body
  | .repetition body _ _ _ => captures body
  | .concat parts => capturesAll parts
  | .choice branches => capturesAll branches
  | .empty | .text _ | .set _ | .look _ => []

def capturesAll : List Expr → List Nat
  | [] => []
  | e :: es => captures e ++ capturesAll es

end

variable {e : Expr} {es : List Expr}

theorem capturesAll_eq_flatMap (es : List Expr) : capturesAll es = es.flatMap captures := by
  induction es with
  | nil => rfl
  | cons e es ih => rw [capturesAll, ih, List.flatMap_cons]

theorem mem_capturesAll {index : Nat} :
    index ∈ capturesAll es ↔ ∃ e ∈ es, index ∈ e.captures := by
  rw [capturesAll_eq_flatMap, List.mem_flatMap]

theorem capturesAll_append (es es' : List Expr) :
    capturesAll (es ++ es') = capturesAll es ++ capturesAll es' := by
  simp only [capturesAll_eq_flatMap, List.flatMap_append]

theorem capturesAll_flatMap {split : Expr → List Expr}
    (hsplit : ∀ e, capturesAll (split e) = e.captures) (es : List Expr) :
    capturesAll (es.flatMap split) = capturesAll es := by
  induction es with
  | nil => rfl
  | cons e es ih => rw [List.flatMap_cons, capturesAll_append, hsplit, ih, capturesAll]

/-! ### How many groups there are -/

mutual

theorem lt_groupCount_iff (index : Nat) (e : Expr) :
    index < e.groupCount ↔ index = 0 ∨ ∃ i ∈ e.captures, index ≤ i := by
  cases e with
  | empty | text t | set chars | look l => simp [groupCount, captures]
  | capture i body =>
      rw [groupCount, captures, lt_max_iff, lt_groupCount_iff index body, Nat.lt_succ_iff]
      simp only [List.mem_cons, exists_eq_or_imp]
      exact or_left_comm
  | repetition body min max greedy => rw [groupCount, captures, lt_groupCount_iff index body]
  | concat parts => rw [groupCount, captures, lt_groupCountAll_iff index parts]
  | choice branches => rw [groupCount, captures, lt_groupCountAll_iff index branches]

theorem lt_groupCountAll_iff (index : Nat) (es : List Expr) :
    index < groupCountAll es ↔ index = 0 ∨ ∃ i ∈ capturesAll es, index ≤ i := by
  cases es with
  | nil => simp [groupCountAll, capturesAll]
  | cons e es =>
      rw [groupCountAll, capturesAll, lt_max_iff, lt_groupCount_iff index e,
        lt_groupCountAll_iff index es]
      simp only [List.mem_append, or_and_right, exists_or]
      exact or_or_distrib_left.symm

end

/-! ### Sequences and choices -/

theorem captures_ofSet (chars : Unicode.CharSet) : (ofSet chars).captures = [] := by
  rw [ofSet]
  split
  · split <;> rfl
  · rfl

theorem capturesAll_parts (e : Expr) : capturesAll e.parts = e.captures := by
  cases e <;> simp [parts, captures, capturesAll]

theorem capturesAll_branches (e : Expr) : capturesAll e.branches = e.captures := by
  cases e <;> simp [branches, captures, capturesAll]

theorem capturesAll_joinTexts (es : List Expr) : capturesAll (joinTexts es) = capturesAll es := by
  fun_induction joinTexts es with
  | case1 => rfl
  | case2 t es u rest hjoined ih =>
      rw [hjoined] at ih
      rw [capturesAll, capturesAll, ← ih]
      rfl
  | case3 t es hjoined ih => rw [capturesAll, capturesAll, ih]
  | case4 e es hjoined ih => rw [capturesAll, capturesAll, ih]

theorem captures_ofParts (es : List Expr) : (ofParts es).captures = capturesAll es := by
  rw [← capturesAll_flatMap capturesAll_parts es, ← capturesAll_joinTexts, ofParts]
  split
  · next hparts =>
      rw [hparts]
      rfl
  · next e hparts => rw [hparts, capturesAll, capturesAll, List.append_nil]
  · rw [captures]

theorem capturesAll_of_mapM {α : Type} {f : Expr → Option α} {xs : List α}
    (hf : ∀ e x, f e = some x → e.captures = []) (h : es.mapM f = some xs) :
    capturesAll es = [] := by
  rw [capturesAll_eq_flatMap, List.flatMap_eq_nil_iff]
  intro e he
  obtain ⟨x, -, hx⟩ := exists_mem_of_mapM h e he
  exact hf e x hx

theorem captures_of_char? {c : Char} (h : e.char? = some c) : e.captures = [] := by
  unfold char? at h
  split at h
  · rfl
  · cases h

theorem captures_of_chars? {chars : Unicode.CharSet} (h : e.chars? = some chars) :
    e.captures = [] := by
  unfold chars? at h
  split at h
  · rfl
  · cases h

theorem captures_ofAny (es : List Expr) : (ofAny es).captures = capturesAll es := by
  rw [← capturesAll_flatMap capturesAll_branches es, ofAny]
  split
  · next e hbranches => rw [hbranches, capturesAll, capturesAll, List.append_nil]
  · split
    · next cs hchars =>
        rw [captures_ofSet, capturesAll_of_mapM (fun _ _ => captures_of_char?) hchars]
    · next sets _ hsets =>
        rw [captures_ofSet, capturesAll_of_mapM (fun _ _ => captures_of_chars?) hsets]
    · rw [captures]

/-! ### What all branches start with -/

mutual

theorem captures_of_same : ∀ {e e' : Expr}, same e e' = true → e.captures = e'.captures
  | .empty, .empty, _ | .text _, .text _, _ | .set _, .set _, _ | .look _, .look _, _ => rfl
  | .capture _ _, .capture _ _, h => by
      simp only [same, Bool.and_eq_true, beq_iff_eq] at h
      rw [captures, captures, h.1, captures_of_same h.2]
  | .repetition _ _ _ _, .repetition _ _ _ _, h => by
      simp only [same, Bool.and_eq_true] at h
      rw [captures, captures, captures_of_same h.2]
  | .concat _, .concat _, h => by rw [captures, captures, capturesAll_of_sameAll h]
  | .choice _, .choice _, h => by rw [captures, captures, capturesAll_of_sameAll h]

theorem capturesAll_of_sameAll :
    ∀ {es es' : List Expr}, sameAll es es' = true → capturesAll es = capturesAll es'
  | [], [], _ => rfl
  | _ :: _, _ :: _, h => by
      simp only [sameAll, Bool.and_eq_true] at h
      rw [capturesAll, capturesAll, captures_of_same h.1, capturesAll_of_sameAll h.2]

end

theorem map_captures_sharedStart (es es' : List Expr) :
    (sharedStart es es').map captures <+: es.map captures ∧
      (sharedStart es es').map captures <+: es'.map captures := by
  fun_induction sharedStart es es' with
  | case1 e es e' es' hsame ih =>
      simp only [List.map_cons, captures_of_same hsame, List.cons_prefix_cons, true_and]
      exact ih
  | case2 | case3 => exact ⟨List.nil_prefix, List.nil_prefix⟩

theorem map_captures_foldl_sharedStart (first : List Expr) (others : List (List Expr)) :
    ∀ es ∈ first :: others, (others.foldl sharedStart first).map captures <+: es.map captures := by
  induction others generalizing first with
  | nil => simp
  | cons es others ih =>
      have hshared := ih (sharedStart first es)
      obtain ⟨hfirst, hes⟩ := map_captures_sharedStart first es
      intro es' hes'
      simp only [List.mem_cons] at hes' hshared
      rcases hes' with rfl | rfl | hes'
      · exact (hshared _ (.inl rfl)).trans hfirst
      · exact (hshared _ (.inl rfl)).trans hes
      · exact hshared _ (.inr hes')

theorem parts_of_sequence? (h : e.sequence? = some es) : e.parts = es := by
  unfold sequence? at h
  split at h
  · exact Option.some.inj h
  · cases h

theorem map_captures_commonStart (branches : List Expr) :
    ∀ e ∈ branches, (commonStart branches).map captures <+: e.parts.map captures := by
  intro e he
  unfold commonStart
  split
  · next first others hsequences =>
      obtain ⟨es, hes, hsequence⟩ := exists_mem_of_mapM hsequences e he
      rw [parts_of_sequence? hsequence]
      exact map_captures_foldl_sharedStart first others es hes
  · exact List.nil_prefix

theorem capturesAll_of_start {start : List Expr} (h : start.map captures <+: es.map captures) :
    capturesAll es = capturesAll start ++ capturesAll (es.drop start.length) := by
  obtain ⟨rest, hrest⟩ := h
  have hdrop : (es.drop start.length).map captures = rest := by
    rw [List.map_drop, ← hrest, List.drop_left' (List.length_map captures)]
  simp only [capturesAll_eq_flatMap, List.flatMap_def]
  rw [hdrop, ← hrest, List.flatten_append]

theorem mem_captures_of_start (index : Nat) {start branches : List Expr} (hbranches : branches ≠ [])
    (hstart : ∀ e ∈ branches, start.map captures <+: e.parts.map captures) :
    (index ∈ capturesAll start ∨
        ∃ e ∈ branches, index ∈ capturesAll (e.parts.drop start.length)) ↔
      ∃ e ∈ branches, index ∈ e.captures := by
  have hsplit : ∀ e ∈ branches, (index ∈ e.captures ↔
      index ∈ capturesAll start ∨ index ∈ capturesAll (e.parts.drop start.length)) := by
    intro e he
    rw [← capturesAll_parts e, capturesAll_of_start (hstart e he), List.mem_append]
  constructor
  · rintro (hindex | ⟨e, he, hindex⟩)
    · obtain ⟨e, he⟩ := List.exists_mem_of_ne_nil _ hbranches
      exact ⟨e, he, (hsplit e he).mpr (.inl hindex)⟩
    · exact ⟨e, he, (hsplit e he).mpr (.inr hindex)⟩
  · rintro ⟨e, he, hindex⟩
    exact ((hsplit e he).mp hindex).imp_right fun hrest => ⟨e, he, hrest⟩

theorem mem_captures_ofBranches (index : Nat) :
    index ∈ (ofBranches es).captures ↔ index ∈ capturesAll es := by
  rw [← captures_ofAny es, ofBranches]
  split
  · next branches hany =>
      rw [hany, captures]
      split
      · rw [captures]
      · next hcommon =>
          have hbranches : branches ≠ [] := by
            rintro rfl
            exact hcommon rfl
          have hstart := mem_captures_of_start index hbranches (map_captures_commonStart branches)
          simpa [captures_ofParts, capturesAll_append, capturesAll, captures_ofAny,
            mem_capturesAll] using hstart
  · exact Iff.rfl

theorem captures_repeated (body : Expr) (min : Nat) (max : Option Nat) (greedy : Bool) :
    (body.repeated min max greedy).captures = if max = some 0 then [] else body.captures := by
  rw [repeated]
  generalize hbounds : (if body.isEmptyOnly = true then
    (min.min 1, some (Nat.min (max.getD 1) 1)) else (min, max)) = bounds
  obtain ⟨min', max'⟩ := bounds
  -- A body that matches the empty text alone loses rounds, but not its last one.
  have hzero : max' = some 0 ↔ max = some 0 := by
    split_ifs at hbounds
    · cases hbounds
      cases max <;> simp
    · cases hbounds
      rfl
  simp only [hzero]
  split_ifs <;> rfl

end Expr

/-! ### Written groups -/

namespace Node

mutual

/-- The indices of the capturing groups that a pattern writes, but for repetitions of no rounds. -/
def captures : Node → List Nat
  | .repetition body _ max _ => if max = some 0 then [] else captures body
  | .capture index body => index :: captures body
  | .group _ body => captures body
  | .concat parts => capturesAll parts
  | .alternation branches => capturesAll branches
  | .empty | .switches _ | .literal _ | .dot | .anchor _ | .short _ _ | .property _ _
  | .bracket _ _ => []

def capturesAll : List Node → List Nat
  | [] => []
  | node :: nodes => captures node ++ capturesAll nodes

end

mutual

theorem mem_captures_of_meaning? (index : Nat) {s s' : Switches} {e : Expr} :
    ∀ {node : Node}, node.meaning? s = some (e, s') →
      (index ∈ e.captures ↔ index ∈ node.captures)
  | .empty, h | .switches _, h | .anchor _, h => by
      cases h
      rfl
  | .literal _, h | .dot, h | .short _ _, h | .property _ _, h | .bracket _ _, h => by
      obtain ⟨chars, -, heq⟩ := Option.map_eq_some_iff.mp h
      cases heq
      rw [Expr.captures_ofSet, captures]
  | .repetition _ _ _ _, h => by
      obtain ⟨⟨body, s₁⟩, hbody, heq⟩ := Option.bind_eq_some_iff.mp h
      cases heq
      rw [Expr.captures_repeated, captures]
      split_ifs
      · rfl
      · exact mem_captures_of_meaning? index hbody
  | .capture _ _, h => by
      obtain ⟨⟨body, s₁⟩, hbody, heq⟩ := Option.bind_eq_some_iff.mp h
      cases heq
      rw [Expr.captures, captures, List.mem_cons, List.mem_cons,
        mem_captures_of_meaning? index hbody]
  | .group _ _, h => by
      obtain ⟨⟨body, s₁⟩, hbody, heq⟩ := Option.bind_eq_some_iff.mp h
      cases heq
      rw [captures, mem_captures_of_meaning? index hbody]
  | .concat _, h => by
      obtain ⟨⟨parts, s₁⟩, hparts, heq⟩ := Option.bind_eq_some_iff.mp h
      cases heq
      rw [Expr.captures_ofParts, captures, mem_capturesAll_of_meanings? index hparts]
  | .alternation _, h => by
      obtain ⟨⟨branches, s₁⟩, hbranches, heq⟩ := Option.bind_eq_some_iff.mp h
      cases heq
      rw [Expr.mem_captures_ofBranches, captures, mem_capturesAll_of_meanings? index hbranches]

theorem mem_capturesAll_of_meanings? (index : Nat) {s s' : Switches} {es : List Expr} :
    ∀ {nodes : List Node}, meanings? s nodes = some (es, s') →
      (index ∈ Expr.capturesAll es ↔ index ∈ capturesAll nodes)
  | [], h => by
      cases h
      rfl
  | _ :: _, h => by
      obtain ⟨⟨e, s₁⟩, he, h⟩ := Option.bind_eq_some_iff.mp h
      obtain ⟨⟨es', s₂⟩, hes, heq⟩ := Option.bind_eq_some_iff.mp h
      cases heq
      rw [Expr.capturesAll, capturesAll, List.mem_append, List.mem_append,
        mem_captures_of_meaning? index he, mem_capturesAll_of_meanings? index hes]

end

end Node

/-- A pattern has a group for every index up to the largest that it writes. -/
theorem exists_lt_groupCount_iff {t : Text} {ignoreCase : Bool} {pattern : Pattern}
    (h : ofText? t ignoreCase = some pattern) :
    ∃ node, Node.ofText? t = some node ∧
      ∀ index, index < pattern.groupCount ↔ index = 0 ∨ ∃ i ∈ node.captures, index ≤ i := by
  obtain ⟨e, he, hfits⟩ := Option.bind_eq_some_iff.mp h
  obtain ⟨node, hnode, hmeaning⟩ := Option.bind_eq_some_iff.mp he
  obtain ⟨⟨e', s⟩, hmeaning, heq⟩ := Option.bind_eq_some_iff.mp hmeaning
  cases heq
  obtain ⟨-, hpattern⟩ := Option.ite_none_right_eq_some.mp hfits
  cases hpattern
  refine ⟨node, hnode, fun index => ?_⟩
  simp only [Expr.lt_groupCount_iff, Node.mem_captures_of_meaning? _ hmeaning]

end Reroute.Pattern
