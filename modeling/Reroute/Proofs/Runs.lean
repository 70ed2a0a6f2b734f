import Mathlib.Data.List.TakeWhile
import Reroute.Text

/-!
# Longest prefixes and longest runs

A reader takes as many characters of a kind as there are, and then has another kind before it or
nothing. These are the two facts that say what it has taken.
-/

namespace Reroute

namespace Text

variable {p sep : Char → Bool} {t start rest : Text}

/-! ### Longest prefixes -/

/-- A text begins with the longest prefix of characters that satisfy `p`, and `rest` follows. -/
structure LongestPrefix (p : Char → Bool) (t start rest : Text) : Prop where
  eq_append : t = start ++ rest
  all : ∀ c ∈ start, p c = true
  stop : ∀ c ∈ rest.head?, p c = false

theorem longestPrefix_takeWhile (p : Char → Bool) (t : Text) :
    LongestPrefix p t (t.takeWhile p) (t.dropWhile p) where
  eq_append := List.takeWhile_append_dropWhile.symm
  all _ hc := List.mem_takeWhile_imp hc
  stop c hc := by
    have hstop := List.head?_dropWhile_not p t
    rw [Option.mem_def.mp hc] at hstop
    exact hstop

theorem LongestPrefix.takeWhile_eq (h : LongestPrefix p t start rest) : t.takeWhile p = start := by
  have hstop : rest.takeWhile p = [] := by
    cases rest with
    | nil => rfl
    | cons c rest => simp [h.stop c rfl]
  rw [h.eq_append, List.takeWhile_append_of_pos h.all, hstop, List.append_nil]

theorem LongestPrefix.dropWhile_eq (h : LongestPrefix p t start rest) : t.dropWhile p = rest := by
  rw [h.eq_append, List.dropWhile_append_of_pos h.all]
  cases rest with
  | nil => rfl
  | cons c rest => simp [h.stop c rfl]

/-! ### Longest runs -/

/-- The longest runs of characters that are no separators, in their order. -/
inductive Runs (sep : Char → Bool) : Text → List Text → Prop
  | nil {gap : Text} (hgap : ∀ c ∈ gap, sep c = true) : Runs sep gap []
  | cons {gap run rest : Text} {runs : List Text} (hgap : ∀ c ∈ gap, sep c = true)
      (hne : run ≠ []) (hrun : ∀ c ∈ run, sep c = false) (hstop : ∀ c ∈ rest.head?, sep c = true)
      (hrest : Runs sep rest runs) : Runs sep (gap ++ (run ++ rest)) (run :: runs)

theorem runs_append_of_sep {gap : Text} (hgap : ∀ c ∈ gap, sep c = true) (t : Text) :
    runs sep (gap ++ t) = runs sep t := by
  induction gap with
  | nil => rfl
  | cons c gap ih =>
      rw [List.forall_mem_cons] at hgap
      rw [← ih hgap.2]
      simp [runs, splitBy, hgap.1]

theorem splitBy_append_of_not_sep {run piece : Text} {pieces : List Text}
    (hrun : ∀ c ∈ run, sep c = false) (hrest : splitBy sep rest = piece :: pieces) :
    splitBy sep (run ++ rest) = (run ++ piece) :: pieces := by
  induction run with
  | nil => exact hrest
  | cons c run ih =>
      rw [List.forall_mem_cons] at hrun
      simp [splitBy, hrun.1, ih hrun.2]

theorem runs_append_of_not_sep {run : Text} (hne : run ≠ []) (hrun : ∀ c ∈ run, sep c = false)
    (hstop : ∀ c ∈ rest.head?, sep c = true) :
    runs sep (run ++ rest) = run :: runs sep rest := by
  have hpieces : ∃ pieces, splitBy sep rest = [] :: pieces := by
    cases rest with
    | nil => exact ⟨[], rfl⟩
    | cons c rest => exact ⟨splitBy sep rest, by simp [splitBy, hstop c rfl]⟩
  obtain ⟨pieces, hpieces⟩ := hpieces
  rw [runs, runs, splitBy_append_of_not_sep hrun hpieces, hpieces]
  simp [hne]

theorem Runs.runs_eq {runs : List Text} (h : Runs sep t runs) : Text.runs sep t = runs := by
  induction h with
  | @nil gap hgap =>
      have hnone := runs_append_of_sep hgap []
      rwa [List.append_nil] at hnone
  | cons hgap hne hrun hstop _ ih =>
      rw [runs_append_of_sep hgap, runs_append_of_not_sep hne hrun hstop, ih]

theorem exists_runs (sep : Char → Bool) (t : Text) : ∃ runs, Runs sep t runs := by
  induction hlength : t.length using Nat.strong_induction_on generalizing t with
  | _ n ih =>
      have hgap := longestPrefix_takeWhile sep t
      generalize t.takeWhile sep = gap at hgap
      generalize t.dropWhile sep = body at hgap
      cases body with
      | nil => exact ⟨[], by simpa [hgap.eq_append] using .nil hgap.all⟩
      | cons c body =>
          -- The run begins with `c`, so that less is left behind it.
          have hrun := longestPrefix_takeWhile (!sep ·) (c :: body)
          have hne : (c :: body).takeWhile (!sep ·) ≠ [] := by simp [hgap.stop c rfl]
          generalize (c :: body).takeWhile (!sep ·) = run at hrun hne
          generalize (c :: body).dropWhile (!sep ·) = rest at hrun
          have hlt : rest.length < n := by
            have hpos := List.length_pos_iff.mpr hne
            rw [← hlength, hgap.eq_append, hrun.eq_append]
            simp only [List.length_append]
            omega
          obtain ⟨runs, hruns⟩ := ih _ hlt rest rfl
          refine ⟨run :: runs, ?_⟩
          rw [hgap.eq_append, hrun.eq_append]
          exact .cons hgap.all hne (by simpa using hrun.all) (by simpa using hrun.stop) hruns

theorem runs_eq_iff {runs : List Text} : Text.runs sep t = runs ↔ Runs sep t runs := by
  constructor
  · rintro rfl
    obtain ⟨runs, hruns⟩ := exists_runs sep t
    rwa [hruns.runs_eq]
  · exact Runs.runs_eq

end Text

end Reroute
