import Mathlib.Data.List.Basic
import Reroute.Rules.Source

/-!
# How a rule text is read line by line

A text falls into lines at its line ends, and each line is read on its own. So the lines of two texts
put one behind the other are the lines of the first and those of the second, as long as a line ends
where they meet; and what a text says is what its lines say, as long as none is malformed.
-/

namespace Reroute

namespace Line

abbrev IsEnd (c : Char) : Prop := c = '\r' ∨ c = '\n'

variable {c : Char} {line t rest : Text}

theorem split_cons_of_isEnd (hc : IsEnd c) (hrest : c = '\r' → rest.head? ≠ some '\n') :
    split (c :: rest) = [] :: split rest := by
  rw [split, if_pos hc]
  rintro rest rfl rfl
  exact hrest rfl rfl

theorem split_cons_of_not_isEnd (hc : ¬ IsEnd c) (rest : Text) :
    split (c :: rest) =
      match split rest with
      | [] => [[c]]
      | line :: lines => (c :: line) :: lines := by
  have hpair : ∀ tail, c = '\r' → rest = '\n' :: tail → False := by
    rintro tail rfl -
    exact hc (.inl rfl)
  rw [split.eq_3 c rest hpair]
  exact if_neg hc

theorem split_append_of_not_isEnd {lines : List Text} (hline : ∀ c ∈ line, ¬ IsEnd c)
    (hrest : split rest = [] :: lines) : split (line ++ rest) = line :: lines := by
  induction line with
  | nil => exact hrest
  | cons c line ih =>
      rw [List.forall_mem_cons] at hline
      rw [List.cons_append, split_cons_of_not_isEnd hline.1, ih hline.2]

theorem split_of_not_isEnd (hne : line ≠ []) (hline : ∀ c ∈ line, ¬ IsEnd c) :
    split line = [line] := by
  induction line with
  | nil => exact absurd rfl hne
  | cons c line ih =>
      rw [List.forall_mem_cons] at hline
      rw [split_cons_of_not_isEnd hline.1]
      by_cases hnil : line = []
      · subst hnil
        rfl
      · rw [ih hnil hline.2]

theorem split_join {lines : List Text}
    (hlines : ∀ line ∈ lines, line ≠ [] ∧ ∀ c ∈ line, ¬ IsEnd c) :
    split (Text.join ['\n'] lines) = lines := by
  induction lines with
  | nil => rfl
  | cons line lines ih =>
      rw [List.forall_mem_cons] at hlines
      obtain ⟨⟨hne, hline⟩, hlines⟩ := hlines
      cases lines with
      | nil =>
          rw [Text.join, List.intercalate_singleton]
          exact split_of_not_isEnd hne hline
      | cons next lines =>
          have hend : split ('\n' :: Text.join ['\n'] (next :: lines)) = [] :: (next :: lines) := by
            rw [split_cons_of_isEnd (.inr rfl) (by simp), ih hlines]
          rw [Text.join, List.intercalate_cons_cons, List.append_assoc]
          exact split_append_of_not_isEnd hline hend

theorem split_eq_nil_iff : split t = [] ↔ t = [] := by
  constructor
  · intro h
    fun_induction split t with
    | case1 => rfl
    | case2 | case3 | case4 | case5 => cases h
  · rintro rfl
    rfl

theorem forall_mem_getLast?_tail {P : Char → Prop} (h : ∀ d ∈ (c :: rest).getLast?, P d) :
    ∀ d ∈ rest.getLast?, P d := by
  intro d hd
  exact h d (by simp [List.getLast?_cons, Option.mem_def.mp hd])

/-- Behind the end of a line other lines begin. Only if the end is a carriage return and a line feed
follows, the two are one end. -/
theorem exists_split_append (t rest : Text) (hend : ∀ c ∈ t.getLast?, IsEnd c) :
    ∃ lines, split (t ++ rest) = split t ++ lines ∧
      (split rest = lines ∨ split rest = [] :: lines) := by
  fun_induction split t with
  | case1 => exact ⟨split rest, rfl, .inl rfl⟩
  | case2 t ih =>
      obtain ⟨lines, hsplit, hrest⟩ :=
        ih (forall_mem_getLast?_tail (forall_mem_getLast?_tail hend))
      refine ⟨lines, ?_, hrest⟩
      rw [List.cons_append, List.cons_append, split, hsplit]
      rfl
  | case3 c t hcrlf hc ih =>
      by_cases hne : t = []
      · subst hne
        by_cases hmeet : c = '\r' ∧ rest.head? = some '\n'
        · obtain ⟨rfl, hhead⟩ := hmeet
          obtain ⟨rest, rfl⟩ := List.head?_eq_some_iff.mp hhead
          refine ⟨split rest, rfl, .inr ?_⟩
          exact split_cons_of_isEnd (.inr rfl) (by simp)
        · refine ⟨split rest, ?_, .inl rfl⟩
          rw [List.singleton_append, split_cons_of_isEnd hc fun h hhead => hmeet ⟨h, hhead⟩]
          rfl
      · obtain ⟨lines, hsplit, hrest⟩ := ih (forall_mem_getLast?_tail hend)
        refine ⟨lines, ?_, hrest⟩
        rw [List.cons_append, split_cons_of_isEnd hc, hsplit]
        · rfl
        · intro h hhead
          obtain ⟨d, t, rfl⟩ := List.exists_cons_of_ne_nil hne
          obtain rfl : d = '\n' := by simpa using hhead
          exact hcrlf t h rfl
  | case4 c t _ hc hnil =>
      obtain rfl := split_eq_nil_iff.mp hnil
      exact absurd (hend c rfl) hc
  | case5 c t _ hc line lines hsplit ih =>
      obtain ⟨lines', hsplit', hrest⟩ := ih (forall_mem_getLast?_tail hend)
      refine ⟨lines', ?_, hrest⟩
      rw [List.cons_append, split_cons_of_not_isEnd hc, hsplit', hsplit]
      rfl

end Line

namespace Source

def gather (lines : List (Nat × Text)) : Source where
  lines := lines.map fun (number, text) =>
    { number, text, category := (Reading.ofText text).category }
  statements := lines.filterMap fun (number, text) =>
    Statement.ofReading? number text (Reading.ofText text)

/-- Lines make up a source if none of them is malformed, and each says what it says alone. -/
theorem ofLines_eq_ok_iff {lines : List (Nat × Text)} {source : Source} :
    ofLines lines = .ok source ↔
      (∀ line ∈ lines, Reading.ofText line.2 ≠ .malformed) ∧ source = gather lines := by
  induction lines generalizing source with
  | nil => simp [ofLines, gather, eq_comm]
  | cons line lines ih =>
      obtain ⟨number, text⟩ := line
      rw [List.forall_mem_cons, and_assoc]
      by_cases hmalformed : Reading.ofText text = .malformed
      · simp [ofLines, hmalformed]
      · have hlines : ofLines ((number, text) :: lines) =
            (ofLines lines).map fun source => {
              lines :=
                { number, text, category := (Reading.ofText text).category } :: source.lines
              statements := (Statement.ofReading? number text (Reading.ofText text)).toList ++
                source.statements } := by
          rw [ofLines]
          cases hreading : Reading.ofText text with
          | malformed => exact absurd hreading hmalformed
          | blank | comment | unrecognized | statement => cases ofLines lines <;> rfl
        have hgather : gather ((number, text) :: lines) = {
            lines := { number, text, category := (Reading.ofText text).category } ::
              (gather lines).lines
            statements := (Statement.ofReading? number text (Reading.ofText text)).toList ++
              (gather lines).statements } := by
          cases hstatement : Statement.ofReading? number text (Reading.ofText text) <;>
            simp [gather, hstatement]
        rw [hlines, hgather]
        constructor
        · intro h
          cases hrest : ofLines lines with
          | error e => simp [hrest, Except.map] at h
          | ok source' =>
              obtain ⟨hall, rfl⟩ := ih.mp hrest
              simp only [hrest, Except.map, Except.ok.injEq] at h
              exact ⟨hmalformed, hall, h.symm⟩
        · rintro ⟨-, hall, rfl⟩
          rw [ih.mpr ⟨hall, rfl⟩]
          rfl

end Source

end Reroute
