import Mathlib.Data.List.DropRight
import Reroute.Proofs.Rules.Grammar
import Reroute.Proofs.Rules.Reading
import Reroute.Rules.Entry
import Reroute.Rules.RuleSet

/-!
# Rule texts that are built line by line

A text that is built from fields and flags is read as these fields and flags, as long as none of them
contains what separates it from the next: white space, and in a flag a comma or a closing bracket
as well. Fields may look like lists, comments or keywords.
-/

namespace Reroute

/-! ### Trimmed text -/

namespace Text

variable {t : Text} {c : Char}

theorem trim_eq_self (hhead : ∀ c ∈ t.head?, isBlank c = false)
    (hlast : ∀ c ∈ t.getLast?, isBlank c = false) : t.trim = t := by
  have hfront : LongestPrefix isBlank t [] t := ⟨rfl, by simp, hhead⟩
  have hback : LongestPrefix isBlank t.reverse [] t.reverse :=
    ⟨rfl, by simp, by rwa [List.head?_reverse]⟩
  rw [trim, hfront.dropWhile_eq, trimEnd, hback.dropWhile_eq, List.reverse_reverse]

theorem exists_trim_cons (hc : isBlank c = false) (t : Text) : ∃ u, trim (c :: t) = c :: u := by
  have hfront : LongestPrefix isBlank (c :: t) [] (c :: t) := ⟨rfl, by simp, by simpa using hc⟩
  have htrim : trim (c :: t) = (c :: t).rdropWhile isBlank := by
    rw [trim, hfront.dropWhile_eq]
    rfl
  have hne : (c :: t).rdropWhile isBlank ≠ [] := by
    rw [Ne, List.rdropWhile_eq_nil_iff]
    intro hall
    simpa [hc] using hall c List.mem_cons_self
  obtain ⟨d, u, hu⟩ := List.exists_cons_of_ne_nil hne
  have hprefix := List.rdropWhile_prefix isBlank (c :: t)
  rw [hu, List.cons_prefix_cons] at hprefix
  exact ⟨u, by rw [htrim, hu, hprefix.1]⟩

theorem mem_join {sep : Text} {ts : List Text} (h : c ∈ join sep ts) :
    c ∈ sep ∨ ∃ t ∈ ts, c ∈ t := by
  induction ts with
  | nil => cases h
  | cons t ts ih =>
      cases ts with
      | nil => exact .inr ⟨t, List.mem_cons_self, by simpa [join] using h⟩
      | cons next ts =>
          rw [join, List.intercalate_cons_cons, List.mem_append, List.mem_append] at h
          rcases h with (ht | hsep) | hrest
          · exact .inr ⟨t, List.mem_cons_self, ht⟩
          · exact .inl hsep
          · obtain hsep | ⟨u, hu, hc⟩ := ih hrest
            · exact .inl hsep
            · exact .inr ⟨u, List.mem_cons_of_mem _ hu, hc⟩

theorem Runs.cons_sep {sep : Char → Bool} {runs : List Text} (hc : sep c = true)
    (h : Runs sep t runs) : Runs sep (c :: t) runs := by
  cases h with
  | nil hgap => exact .nil (List.forall_mem_cons.mpr ⟨hc, hgap⟩)
  | cons hgap hne hrun hstop hrest =>
      exact .cons (List.forall_mem_cons.mpr ⟨hc, hgap⟩) hne hrun hstop hrest

theorem runs_join {sep : Char → Bool} {ts : List Text} (hsep : sep c = true)
    (hts : ∀ t ∈ ts, t ≠ [] ∧ ∀ d ∈ t, sep d = false) : Runs sep (join [c] ts) ts := by
  induction ts with
  | nil => exact .nil (by simp [join])
  | cons t ts ih =>
      rw [List.forall_mem_cons] at hts
      obtain ⟨⟨hne, ht⟩, hts⟩ := hts
      cases ts with
      | nil =>
          have hrun : Runs sep ([] ++ (t ++ [])) [t] :=
            .cons (by simp) hne ht (by simp) (.nil (by simp))
          simpa [join] using hrun
      | cons next ts =>
          have hrest := (ih hts).cons_sep hsep
          have hrun : Runs sep ([] ++ (t ++ c :: join [c] (next :: ts))) (t :: next :: ts) :=
            .cons (by simp) hne ht (by simpa using hsep) hrest
          rw [join, List.intercalate_cons_cons, List.append_assoc]
          exact hrun

end Text

/-! ### One line -/

def IsFlag (t : Text) : Prop := t ≠ [] ∧ ∀ c ∈ t, c ≠ ',' ∧ c ≠ ']' ∧ isBlank c = false

instance : DecidablePred IsField := fun t =>
  decidable_of_iff ((!t.isEmpty && t.all (!isBlank ·)) = true) (by simp [IsField])

instance : DecidablePred IsFlag := fun t =>
  decidable_of_iff ((!t.isEmpty && t.all fun c => c != ',' && c != ']' && !isBlank c) = true)
    (by simp [IsFlag, and_assoc])

theorem not_isEnd_of_not_isBlank {c : Char} (h : isBlank c = false) : ¬ Line.IsEnd c := by
  rintro (rfl | rfl) <;> simp [isBlank] at h

theorem IsField.not_isEnd {t : Text} (h : IsField t) : ∀ c ∈ t, ¬ Line.IsEnd c := fun c hc =>
  not_isEnd_of_not_isBlank (h.2 c hc)

namespace Entry

/-- What can be written into a line such that it can be read again. -/
def IsWritable : Entry → Prop
  | .comment text => ∀ c ∈ text, ¬ Line.IsEnd c
  | .statement _ fields =>
    IsField fields.first ∧ IsField fields.second ∧ ∀ flag ∈ fields.flags, IsFlag flag

instance : DecidablePred IsWritable
  | .comment text =>
    decidable_of_iff ((text.all fun c => c != '\r' && c != '\n') = true)
      (by simp [IsWritable, Line.IsEnd])
  | .statement _ fields =>
    inferInstanceAs (Decidable (IsField fields.first ∧ IsField fields.second ∧
      ∀ flag ∈ fields.flags, IsFlag flag))

def reading : Entry → Reading
  | .comment _ => .comment
  | .statement kind fields => .statement kind fields

def list (flags : List Text) : Text :=
  if flags.isEmpty then [] else " [".toList ++ Text.join [','] flags ++ [']']

variable {kind : Kind} {fields : Fields} {flags : List Text}

theorem isBlank_keyword (kind : Kind) : ∀ c ∈ kind.keyword, isBlank c = false := by
  have hall : kind.keyword.all (!isBlank ·) = true := by
    cases kind <;> decide
  simpa using hall

theorem line_statement (kind : Kind) (fields : Fields) :
    line (.statement kind fields) =
      kind.keyword ++ ([' '] ++ fields.first ++ [' '] ++ fields.second ++ list fields.flags ++ []) := by
  simp [line, list]

theorem flagsWritten_list (hflags : ∀ flag ∈ flags, IsFlag flag) :
    FlagsWritten (list flags) flags := by
  unfold list
  cases flags with
  | nil => exact .absent
  | cons flag flags =>
      have hgap : IsGap [' '] := by simp [IsGap, isSpace]
      have hbracket : ']' ∉ Text.join [','] (flag :: flags) := by
        intro h
        obtain hcomma | ⟨t, ht, hc⟩ := Text.mem_join h
        · simp at hcomma
        · exact ((hflags t ht).2 _ hc).2.1 rfl
      have hruns : Text.Runs (fun c => c == ',' || isBlank c) (Text.join [','] (flag :: flags))
          (flag :: flags) := by
        refine Text.runs_join rfl fun t ht => ⟨(hflags t ht).1, fun c hc => ?_⟩
        have hc := (hflags t ht).2 c hc
        simp [hc.1, hc.2.2]
      exact .list hgap hbracket hruns

theorem written_line (h : (statement kind fields).IsWritable) :
    (Reading.statement kind fields).Written (line (.statement kind fields)) := by
  obtain ⟨hfirst, hsecond, hflags⟩ := h
  have hgap : IsGap [' '] := by simp [IsGap, isSpace]
  have hword : Text.LongestPrefix (!isBlank ·) (line (.statement kind fields)) kind.keyword
      ([' '] ++ fields.first ++ [' '] ++ fields.second ++ list fields.flags ++ []) := by
    exact ⟨line_statement kind fields, by simpa using isBlank_keyword kind, by simp [isBlank]⟩
  exact .statement hword rfl
    ⟨[' '], [' '], list fields.flags, [], hgap, hfirst, hgap, hsecond, flagsWritten_list hflags,
      by simp, rfl⟩

theorem isBlank_of_mem_getLast?_line (hsecond : IsField fields.second) :
    ∀ c ∈ (line (.statement kind fields)).getLast?, isBlank c = false := by
  intro c hc
  rw [line_statement, List.append_nil, ← List.append_assoc, List.getLast?_append] at hc
  unfold list at hc
  cases hflags : fields.flags with
  | nil =>
      obtain ⟨last, hlast⟩ := Option.isSome_iff_exists.mp (List.getLast?_isSome.mpr hsecond.1)
      rw [← List.append_assoc, List.getLast?_append, hlast] at hc
      obtain rfl : last = c := by simpa [hflags] using hc
      exact hsecond.2 last (List.mem_of_mem_getLast? hlast)
  | cons flag flags =>
      rw [hflags, List.isEmpty_cons, if_neg Bool.false_ne_true, List.getLast?_concat] at hc
      obtain rfl : ']' = c := by simpa using hc
      decide

theorem trim_line (h : (statement kind fields).IsWritable) :
    (line (.statement kind fields)).trim = line (.statement kind fields) := by
  refine Text.trim_eq_self ?_ (isBlank_of_mem_getLast?_line h.2.1)
  have hletter : kind.keyword.head? = some 'R' := by cases kind <;> decide
  intro c hc
  rw [line_statement, List.head?_append, hletter] at hc
  obtain rfl : 'R' = c := by simpa using hc
  decide

theorem ofText_trim_line {e : Entry} (h : e.IsWritable) : Reading.ofText e.line.trim = e.reading := by
  cases e with
  | comment text =>
      obtain ⟨u, hu⟩ := Text.exists_trim_cons (c := '#') (by decide) (' ' :: text)
      have hline : line (.comment text) = '#' :: ' ' :: text := rfl
      rw [hline, hu]
      rfl
  | statement kind fields =>
      rw [trim_line h]
      exact (written_line h).ofText_eq

theorem line_ne_nil_and_not_isEnd {e : Entry} (h : e.IsWritable) :
    e.line ≠ [] ∧ ∀ c ∈ e.line, ¬ Line.IsEnd c := by
  cases e with
  | comment text =>
      have hline : line (.comment text) = '#' :: ' ' :: text := rfl
      rw [hline]
      refine ⟨List.cons_ne_nil _ _, ?_⟩
      rw [List.forall_mem_cons, List.forall_mem_cons]
      exact ⟨by decide, by decide, h⟩
  | statement kind fields =>
      obtain ⟨hfirst, hsecond, hflags⟩ := h
      have hne : kind.keyword ≠ [] := by
        cases kind <;> decide
      have hkeyword : ∀ c ∈ kind.keyword, ¬ Line.IsEnd c := fun c hc =>
        not_isEnd_of_not_isBlank (isBlank_keyword kind c hc)
      have hlist : ∀ c ∈ list fields.flags, ¬ Line.IsEnd c := by
        unfold list
        intro c hc
        split_ifs at hc with hempty
        · cases hc
        · simp only [List.mem_append] at hc
          rcases hc with (hopen | hjoin) | hclose
          · have hc' : c = ' ' ∨ c = '[' := by simpa using hopen
            rcases hc' with rfl | rfl <;> decide
          · obtain hcomma | ⟨t, ht, hc⟩ := Text.mem_join hjoin
            · obtain rfl : c = ',' := by simpa using hcomma
              decide
            · exact not_isEnd_of_not_isBlank ((hflags t ht).2 c hc).2.2
          · obtain rfl : c = ']' := by simpa using hclose
            decide
      have hspace : ∀ c ∈ [' '], ¬ Line.IsEnd c := by simp [Line.IsEnd]
      rw [line_statement]
      refine ⟨by simp [hne], ?_⟩
      simp only [List.forall_mem_append]
      exact ⟨hkeyword, ⟨⟨⟨⟨hspace, hfirst.not_isEnd⟩, hspace⟩, hsecond.not_isEnd⟩, hlist⟩, by simp⟩

/-! ### All lines -/

def kind? : Entry → Option Kind
  | .comment _ => none
  | .statement kind _ => some kind

def statement? (number : Nat) : Entry → Option Statement
  | .comment _ => none
  | .statement kind fields =>
    some { kind, line := number, text := line (.statement kind fields), fields }

def source (entries : List Entry) : Source where
  lines := entries.zipIdx.map fun (e, i) =>
    { number := i + 1, text := e.line.trim, category := e.reading.category }
  statements := entries.zipIdx.filterMap fun (e, i) => e.statement? (i + 1)

variable {entries : List Entry}

theorem numbered_text (h : ∀ e ∈ entries, e.IsWritable) :
    Line.numbered (text entries) = entries.zipIdx.map fun (e, i) => (i + 1, e.line.trim) := by
  have hlines : ∀ t ∈ entries.map line, t ≠ [] ∧ ∀ c ∈ t, ¬ Line.IsEnd c := by
    intro t ht
    obtain ⟨e, he, rfl⟩ := List.mem_map.mp ht
    exact line_ne_nil_and_not_isEnd (h e he)
  rw [Line.numbered, text, Line.split_join hlines, List.zipIdx_map, List.map_map]
  rfl

theorem gather_text (h : ∀ e ∈ entries, e.IsWritable) :
    Source.gather (Line.numbered (text entries)) = source entries := by
  rw [numbered_text h, Source.gather, source, List.map_map, List.filterMap_map, Source.mk.injEq]
  constructor
  · refine List.map_congr_left ?_
    rintro ⟨e, i⟩ he
    have hreading := ofText_trim_line (h e (List.fst_mem_of_mem_zipIdx he))
    simp [hreading]
  · refine List.filterMap_congr ?_
    rintro ⟨e, i⟩ he
    have hwritable := h e (List.fst_mem_of_mem_zipIdx he)
    have hreading := ofText_trim_line hwritable
    simp only [Function.comp_apply, hreading]
    cases e with
    | comment text => rfl
    | statement kind fields => simp [reading, Statement.ofReading?, statement?, trim_line hwritable]

theorem ofText_text_eq_source (h : ∀ e ∈ entries, e.IsWritable) :
    Source.ofText (text entries) = .ok (source entries) := by
  refine Source.ofLines_eq_ok_iff.mpr ⟨?_, (gather_text h).symm⟩
  rw [numbered_text h]
  intro line hline
  obtain ⟨⟨e, i⟩, he, rfl⟩ := List.mem_map.mp hline
  dsimp only
  rw [ofText_trim_line (h e (List.fst_mem_of_mem_zipIdx he))]
  cases e <;> simp [reading]

theorem count_source (entries : List Entry) (kind : Kind) :
    (RuleSet.ofSource (source entries)).count kind.category =
      entries.countP (·.kind? = some kind) := by
  have hentries := List.zipIdx_map_fst 0 entries
  conv_rhs => rw [← hentries]
  rw [RuleSet.count, RuleSet.ofSource, source, List.countP_map, List.countP_map]
  refine List.countP_congr fun ⟨e, i⟩ _ => ?_
  cases e with
  | comment text => cases kind <;> simp [reading, Reading.category, Kind.category, kind?]
  | statement kind' fields =>
      cases kind <;> cases kind' <;> simp [reading, Reading.category, Kind.category, kind?]

end Entry

/-- **A text that is built is read as it was built.** Every entry is one line of its own. The
statements are those that were written, in their order, with their fields and flags as they were
given and the number of the entry as their line. -/
theorem RuleSet.ofText_text (entries : List Entry) (h : ∀ e ∈ entries, e.IsWritable) :
    Source.ofText (Entry.text entries) = .ok (Entry.source entries) ∧
      (Entry.source entries).lines.length = entries.length ∧
      ofText (Entry.text entries) = .ok (ofSource (Entry.source entries)) ∧
      (ofSource (Entry.source entries)).conditionCount =
        entries.countP (·.kind? = some .condition) ∧
      (ofSource (Entry.source entries)).ruleCount = entries.countP (·.kind? = some .rule) := by
  have hsource := Entry.ofText_text_eq_source h
  refine ⟨hsource, by simp [Entry.source], ?_, Entry.count_source entries .condition,
    Entry.count_source entries .rule⟩
  rw [ofText, hsource]
  rfl

private def lookalikes : List Entry := [
  .comment "RewriteRule a b [L".toList,
  .statement .condition ⟨"[NC]".toList, "#".toList, ["[OR".toList, "NC".toList]⟩,
  .statement .rule ⟨"RewriteCond".toList, "[L]".toList, []⟩]

/-- A comment that looks like a rule, and fields that look like lists, comments and keywords. -/
theorem RuleSet.ofText_text_of_lookalikes :
    (∀ e ∈ lookalikes, e.IsWritable) ∧
      Source.ofText (Entry.text lookalikes) = .ok (Entry.source lookalikes) ∧
      (Entry.source lookalikes).statements.map (fun s => (s.line, s.kind, s.fields)) = [
        (2, .condition, ⟨"[NC]".toList, "#".toList, ["[OR".toList, "NC".toList]⟩),
        (3, .rule, ⟨"RewriteCond".toList, "[L]".toList, []⟩)] := by
  have hwritable : ∀ e ∈ lookalikes, e.IsWritable := by decide
  exact ⟨hwritable, (ofText_text lookalikes hwritable).1, rfl⟩

end Reroute
