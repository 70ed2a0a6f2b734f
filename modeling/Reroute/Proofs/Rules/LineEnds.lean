import Mathlib.Data.List.DropRight
import Reroute.Proofs.Rules.Entries
import Reroute.Proofs.Rules.InertLines

/-!
# Line ends

A text falls into lines that are ended and perhaps one that is not, and it is put together again from
its lines and their ends. Nothing else depends on how a line is ended: a text with other line ends, or
with white space taken away at the ends of its lines, has the same lines and is read in the same way.
-/

namespace Reroute

namespace Text

variable {t : Text}

theorem trim_eq_rdropWhile (t : Text) : t.trim = (t.dropWhile isBlank).rdropWhile isBlank := rfl

theorem mem_of_mem_trim {c : Char} (h : c ∈ t.trim) : c ∈ t := by
  rw [trim_eq_rdropWhile] at h
  exact (List.dropWhile_sublist _).mem ((List.rdropWhile_prefix _ _).mem h)

theorem trim_trim (t : Text) : t.trim.trim = t.trim := by
  refine trim_eq_self (fun c hc => ?_) (fun c hc => ?_)
  · obtain ⟨rest, hrest⟩ := List.rdropWhile_prefix isBlank (t.dropWhile isBlank)
    have hhead : c ∈ (t.dropWhile isBlank).head? := by
      rw [← hrest, List.head?_append]
      simp [← trim_eq_rdropWhile, Option.mem_def.mp hc]
    exact (longestPrefix_takeWhile isBlank t).stop c hhead
  · obtain ⟨hne, hlast⟩ := List.mem_getLast?_eq_getLast hc
    rw [hlast]
    exact Bool.eq_false_iff.mpr (List.rdropWhile_last_not isBlank _ hne)

end Text

namespace Line

variable {c : Char} {line ending rest t : Text}

/-- The ends of the lines of a text. A carriage return and a line feed behind it are one end. -/
def endings : Text → List Text
  | [] => []
  | '\r' :: '\n' :: rest => ['\r', '\n'] :: endings rest
  | c :: rest => if c = '\r' ∨ c = '\n' then [c] :: endings rest else endings rest

/-- What stands behind the last line end. -/
def remainder (t : Text) : Text := t.rtakeWhile fun c => !decide (IsEnd c)

def mergePairs : Text → Text
  | [] => []
  | '\r' :: '\n' :: rest => '\n' :: mergePairs rest
  | c :: rest => c :: mergePairs rest

/-- The text with a line feed for each of its line ends: for the pairs first, and then for the carriage
returns that are left. -/
def withLineFeeds (t : Text) : Text := (mergePairs t).map fun c => if c = '\r' then '\n' else c

/-- Lines of text, each with a line feed behind it. -/
def written (lines : List Line) : Text := lines.flatMap fun line => line.text ++ ['\n']

/-! ### A line, its end, and what follows -/

/-- A line that has no line end in it, the end of this line, and what follows. -/
structure Ended (line ending rest : Text) : Prop where
  not_isEnd : ∀ c ∈ line, ¬ IsEnd c
  mem_ends : ending ∈ ends
  whole : ending = ['\r'] → rest.head? ≠ some '\n'

theorem Ended.ending_ne_nil (h : Ended line ending rest) : ending ≠ [] := by
  rintro rfl
  simpa [ends] using h.mem_ends

theorem exists_ended_of_isEnd (hc : IsEnd c) (body : Text) :
    ∃ ending rest, c :: body = ending ++ rest ∧ Ended [] ending rest := by
  by_cases hpair : c = '\r' ∧ body.head? = some '\n'
  · obtain ⟨rfl, hhead⟩ := hpair
    obtain ⟨rest, rfl⟩ := List.head?_eq_some_iff.mp hhead
    exact ⟨['\r', '\n'], rest, rfl, by simp, by simp [ends], by simp⟩
  · refine ⟨[c], body, rfl, by simp, ?_, fun heq hhead => hpair ⟨by simpa using heq, hhead⟩⟩
    rcases hc with rfl | rfl <;> simp [ends]

/-- A text is one line that is not ended, or it goes on behind the end of its first line. -/
@[elab_as_elim]
theorem ended_induction {motive : Text → Prop} (t : Text)
    (last : ∀ line, (∀ c ∈ line, ¬ IsEnd c) → motive line)
    (ended : ∀ line ending rest, Ended line ending rest → motive rest →
      motive (line ++ (ending ++ rest))) : motive t := by
  induction hlength : t.length using Nat.strong_induction_on generalizing t with
  | _ n ih =>
      obtain ⟨happend, hline, hstop⟩ :=
        Text.longestPrefix_takeWhile (fun c => !decide (IsEnd c)) t
      have hline' : ∀ c ∈ t.takeWhile fun c => !decide (IsEnd c), ¬ IsEnd c := fun c hc => by
        simpa using hline c hc
      cases hbody : t.dropWhile fun c => !decide (IsEnd c) with
      | nil =>
          rw [happend, hbody, List.append_nil]
          exact last _ hline'
      | cons c body =>
          rw [hbody] at happend hstop
          have hc : IsEnd c := or_iff_not_imp_left.mpr (by simpa using hstop c rfl)
          obtain ⟨ending, rest, hends, hended⟩ := exists_ended_of_isEnd hc body
          rw [hends] at happend
          have hshorter : rest.length < n := by
            have hpos := List.length_pos_iff.mpr hended.ending_ne_nil
            rw [← hlength, happend, List.length_append, List.length_append]
            omega
          rw [happend]
          exact ended _ _ _ ⟨hline', hended.mem_ends, hended.whole⟩ (ih _ hshorter rest rfl)

theorem endings_cons_of_not_isEnd (hc : ¬ IsEnd c) (rest : Text) :
    endings (c :: rest) = endings rest := by
  have hpair : ∀ tail, c = '\r' → rest = '\n' :: tail → False := by
    rintro tail rfl -
    exact hc (.inl rfl)
  rw [endings.eq_3 c rest hpair]
  exact if_neg hc

theorem endings_cons_of_isEnd (hc : IsEnd c) (hrest : c = '\r' → rest.head? ≠ some '\n') :
    endings (c :: rest) = [c] :: endings rest := by
  rw [endings, if_pos hc]
  rintro rest rfl rfl
  exact hrest rfl rfl

theorem mergePairs_cons (hrest : c = '\r' → rest.head? ≠ some '\n') :
    mergePairs (c :: rest) = c :: mergePairs rest := by
  rw [mergePairs]
  rintro rest rfl rfl
  exact hrest rfl rfl

theorem endings_append (hline : ∀ c ∈ line, ¬ IsEnd c) (rest : Text) :
    endings (line ++ rest) = endings rest := by
  induction line with
  | nil => rfl
  | cons c line ih =>
      rw [List.forall_mem_cons] at hline
      rw [List.cons_append, endings_cons_of_not_isEnd hline.1, ih hline.2]

theorem withLineFeeds_append (hline : ∀ c ∈ line, ¬ IsEnd c) (rest : Text) :
    withLineFeeds (line ++ rest) = line ++ withLineFeeds rest := by
  induction line with
  | nil => rfl
  | cons c line ih =>
      rw [List.forall_mem_cons] at hline
      have hc : c ≠ '\r' := fun h => hline.1 (.inl h)
      rw [List.cons_append, withLineFeeds, mergePairs_cons (fun h => absurd h hc), List.map_cons,
        if_neg hc, ← withLineFeeds, ih hline.2, List.cons_append]

namespace Ended

theorem split_eq (h : Ended line ending rest) :
    split (line ++ (ending ++ rest)) = line :: split rest := by
  refine split_append_of_not_isEnd h.not_isEnd ?_
  rcases mem_ends_iff.mp h.mem_ends with rfl | rfl | rfl
  · exact split_cons_of_isEnd (.inr rfl) (by simp)
  · exact split_cons_of_isEnd (.inl rfl) fun _ => h.whole rfl
  · rfl

theorem endings_eq (h : Ended line ending rest) :
    endings (line ++ (ending ++ rest)) = ending :: endings rest := by
  rw [endings_append h.not_isEnd]
  rcases mem_ends_iff.mp h.mem_ends with rfl | rfl | rfl
  · exact endings_cons_of_isEnd (.inr rfl) (by simp)
  · exact endings_cons_of_isEnd (.inl rfl) fun _ => h.whole rfl
  · rfl

theorem withLineFeeds_eq (h : Ended line ending rest) :
    withLineFeeds (line ++ (ending ++ rest)) = line ++ '\n' :: withLineFeeds rest := by
  rw [withLineFeeds_append h.not_isEnd]
  unfold withLineFeeds
  rcases mem_ends_iff.mp h.mem_ends with rfl | rfl | rfl
  · rw [List.singleton_append, mergePairs_cons (by simp)]
    rfl
  · rw [List.singleton_append, mergePairs_cons fun _ => h.whole rfl]
    rfl
  · rfl

end Ended

theorem remainder_append (hend : ∀ c ∈ t.getLast?, IsEnd c) (rest : Text) :
    remainder (t ++ rest) = remainder rest := by
  have hstop : (t.reverse.takeWhile fun c => !decide (IsEnd c)) = [] := by
    rw [← List.head?_reverse] at hend
    cases hback : t.reverse with
    | nil => rfl
    | cons c back =>
        rw [hback] at hend
        exact List.takeWhile_cons_of_neg (by simp [decide_eq_true (hend c rfl)])
  unfold remainder List.rtakeWhile
  rw [List.reverse_append, List.takeWhile_append, hstop, List.append_nil]
  split_ifs with hall
  · rw [(List.takeWhile_prefix _).eq_of_length hall]
  · rfl

/-! ### The lines of a text and their ends -/

theorem eq_of_mem_split_of_not_isEnd (hwhole : ∀ c ∈ t, ¬ IsEnd c) (hline : line ∈ split t) :
    line = t := by
  by_cases hne : t = []
  · subst hne
    cases hline
  · rw [split_of_not_isEnd hne hwhole] at hline
    exact List.mem_singleton.mp hline

theorem not_isEnd_of_mem_split (hline : line ∈ split t) : ∀ c ∈ line, ¬ IsEnd c := by
  induction t using ended_induction with
  | last whole hwhole => rwa [eq_of_mem_split_of_not_isEnd hwhole hline]
  | ended first ending rest hended ih =>
      rw [hended.split_eq] at hline
      rcases List.mem_cons.mp hline with rfl | hrest
      · exact hended.not_isEnd
      · exact ih hrest

theorem mem_of_mem_split (hline : line ∈ split t) (hc : c ∈ line) : c ∈ t := by
  induction t using ended_induction with
  | last whole hwhole => rwa [← eq_of_mem_split_of_not_isEnd hwhole hline]
  | ended first ending rest hended ih =>
      rw [hended.split_eq] at hline
      rcases List.mem_cons.mp hline with rfl | hrest
      · exact List.mem_append_left _ hc
      · exact List.mem_append_right _ (List.mem_append_right _ (ih hrest))

theorem endings_of_not_isEnd (hline : ∀ c ∈ line, ¬ IsEnd c) : endings line = [] := by
  simpa [endings] using endings_append hline []

theorem withLineFeeds_of_not_isEnd (hline : ∀ c ∈ line, ¬ IsEnd c) : withLineFeeds line = line := by
  simpa [withLineFeeds, mergePairs] using withLineFeeds_append hline []

theorem mem_ends_of_mem_endings (hending : ending ∈ endings t) : ending ∈ ends := by
  induction t using ended_induction with
  | last line hline => simp [endings_of_not_isEnd hline] at hending
  | ended line first rest hended ih =>
      rw [hended.endings_eq] at hending
      rcases List.mem_cons.mp hending with rfl | hrest
      · exact hended.mem_ends
      · exact ih hrest

theorem flatten_split_endings (t : Text) :
    (List.zipWith (· ++ ·) (split t) (endings t ++ [[]])).flatten = t := by
  induction t using ended_induction with
  | last line hline =>
      by_cases hne : line = []
      · subst hne
        rfl
      · simp [split_of_not_isEnd hne hline, endings_of_not_isEnd hline]
  | ended line ending rest hended ih =>
      rw [hended.split_eq, hended.endings_eq, List.cons_append, List.zipWith_cons_cons,
        List.flatten_cons, ih, List.append_assoc]

theorem length_split (t : Text) :
    (split t).length = (endings t).length + if remainder t = [] then 0 else 1 := by
  induction t using ended_induction with
  | last line hline =>
      have hremainder : remainder line = line :=
        List.rtakeWhile_eq_self_iff.mpr fun c hc => by simpa using hline c hc
      rw [hremainder, endings_of_not_isEnd hline]
      by_cases hne : line = []
      · subst hne
        rfl
      · rw [split_of_not_isEnd hne hline, if_neg hne]
        rfl
  | ended line ending rest hended ih =>
      have hend := isEnd_of_mem_getLast?_ending line hended.mem_ends
      rw [hended.split_eq, hended.endings_eq, ← List.append_assoc, remainder_append hend,
        List.length_cons, List.length_cons, ih, Nat.add_right_comm]

/-! ### Other ends -/

theorem ended_lineFeed (hline : ∀ c ∈ line, ¬ IsEnd c) (rest : Text) : Ended line ['\n'] rest :=
  ⟨hline, by simp [ends], by simp⟩

theorem split_withLineFeeds (t : Text) : split (withLineFeeds t) = split t := by
  induction t using ended_induction with
  | last line hline => rw [withLineFeeds_of_not_isEnd hline]
  | ended line ending rest hended ih =>
      rw [hended.withLineFeeds_eq, hended.split_eq, ← ih]
      exact (ended_lineFeed hended.not_isEnd _).split_eq

theorem split_flatMap_lineFeed {lines : List Text} (hlines : ∀ line ∈ lines, ∀ c ∈ line, ¬ IsEnd c) :
    split (lines.flatMap (· ++ ['\n'])) = lines := by
  induction lines with
  | nil => rfl
  | cons line lines ih =>
      rw [List.forall_mem_cons] at hlines
      rw [List.flatMap_cons, List.append_assoc, (ended_lineFeed hlines.1 _).split_eq, ih hlines.2]

theorem map_number_ofText (t : Text) :
    (ofText t).map Line.number = List.range' 1 (split t).length := by
  rw [ofText, List.map_map, ← map_fst_numbered]
  rfl

theorem map_text_ofText (t : Text) : (ofText t).map Line.text = (split t).map Text.trim := by
  conv_rhs => rw [← List.zipIdx_map_fst 0 (split t)]
  rw [ofText, numbered, List.map_map, List.map_map, List.map_map]
  rfl

theorem split_written (t : Text) : split (written (ofText t)) = (split t).map Text.trim := by
  have htexts : written (ofText t) = ((split t).map Text.trim).flatMap (· ++ ['\n']) := by
    rw [← map_text_ofText, written, List.flatMap_map]
  rw [htexts]
  refine split_flatMap_lineFeed fun line hline c hc => ?_
  obtain ⟨raw, hraw, rfl⟩ := List.mem_map.mp hline
  exact not_isEnd_of_mem_split hraw c (Text.mem_of_mem_trim hc)

theorem numbered_written (t : Text) : numbered (written (ofText t)) = numbered t := by
  rw [numbered, split_written, List.zipIdx_map, List.map_map, numbered]
  refine List.map_congr_left ?_
  rintro ⟨line, i⟩ -
  simp [Text.trim_trim]

theorem ofText_of_numbered_eq {t' : Text} (h : numbered t' = numbered t) :
    ofText t' = ofText t ∧ Source.ofText t' = Source.ofText t := by
  rw [ofText, Source.ofText, h]
  exact ⟨rfl, rfl⟩

/-- **A text falls into lines without loss, whatever ends them.** No line has a line end in it, and the
lines with their ends behind them are the text. There is one line for each end and one for what stands
behind the last end. They are numbered from one, and their texts lose the white space around them. The
lines, and the statements or the first malformed line, are the same with a line feed for each end, and
they are the same when every line is written without that white space and a line feed behind it. -/
theorem split_lossless (t : Text) :
    (∀ line ∈ split t, '\r' ∉ line ∧ '\n' ∉ line) ∧
      (∀ ending ∈ endings t, ending ∈ ends) ∧
      (List.zipWith (· ++ ·) (split t) (endings t ++ [[]])).flatten = t ∧
      (split t).length = (endings t).length + (if remainder t = [] then 0 else 1) ∧
      (ofText t).map Line.number = List.range' 1 (split t).length ∧
      (ofText t).map Line.text = (split t).map Text.trim ∧
      (ofText (withLineFeeds t) = ofText t ∧
        Source.ofText (withLineFeeds t) = Source.ofText t) ∧
      (ofText (written (ofText t)) = ofText t ∧
        Source.ofText (written (ofText t)) = Source.ofText t) := by
  have hlines : ∀ line ∈ split t, '\r' ∉ line ∧ '\n' ∉ line := fun line hline =>
    ⟨fun hmem => not_isEnd_of_mem_split hline _ hmem (.inl rfl),
      fun hmem => not_isEnd_of_mem_split hline _ hmem (.inr rfl)⟩
  have hnumbered : numbered (withLineFeeds t) = numbered t := by
    rw [numbered, split_withLineFeeds, numbered]
  exact ⟨hlines, fun _ => mem_ends_of_mem_endings, flatten_split_endings t, length_split t,
    map_number_ofText t, map_text_ofText t, ofText_of_numbered_eq hnumbered,
    ofText_of_numbered_eq (numbered_written t)⟩

end Line

end Reroute
