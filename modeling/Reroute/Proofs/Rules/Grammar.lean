import Reroute.Proofs.Runs
import Reroute.Rules.Line

/-!
# The grammar of a line

A line is read by cutting off one prefix after the other, each as long as it can be. What is read
that way is what the grammar allows for: two fields behind the keyword, with spaces or tabs before
each of them, and perhaps a list in brackets. The grammar says nothing of how a line is read, and it
leaves no choice: a line has its fields in one way only.
-/

namespace Reroute

theorem isBlank_of_isSpace {c : Char} (h : isSpace c = true) : isBlank c = true := by
  have hc : c = ' ' ∨ c = '\t' := by simpa [isSpace] using h
  rcases hc with rfl | rfl <;> decide

/-! ### Fields and flags -/

def IsField (t : Text) : Prop := t ≠ [] ∧ ∀ c ∈ t, isBlank c = false

def IsGap (t : Text) : Prop := t ≠ [] ∧ ∀ c ∈ t, isSpace c = true

/-- How a flag list is written: not at all, or in brackets behind a gap. A closing bracket ends the
list, and its tokens are the longest runs without commas and white space. -/
inductive FlagsWritten : Text → List Text → Prop
  | absent : FlagsWritten [] []
  | list {gap body : Text} {flags : List Text} (hgap : IsGap gap) (hbody : ']' ∉ body)
      (hflags : Text.Runs (fun c => c == ',' || isBlank c) body flags) :
      FlagsWritten (gap ++ '[' :: body ++ [']']) flags

theorem mem_of_mem_head?_append {t u : Text} (hne : t ≠ []) {c : Char} (hc : c ∈ (t ++ u).head?) :
    c ∈ t := by
  cases t with
  | nil => exact absurd rfl hne
  | cons d t => exact List.mem_of_mem_head? hc

theorem IsGap.blank_of_mem_head? {gap : Text} (h : IsGap gap) (t : Text) :
    ∀ c ∈ (gap ++ t).head?, isBlank c = true := by
  intro c hc
  exact isBlank_of_isSpace (h.2 c (mem_of_mem_head?_append h.1 hc))

theorem FlagsWritten.blank_of_mem_head? {list tail : Text} {flags : List Text}
    (h : FlagsWritten list flags) (htail : ∀ c ∈ tail, isSpace c = true) :
    ∀ c ∈ (list ++ tail).head?, isBlank c = true := by
  cases h with
  | absent =>
      intro c hc
      exact isBlank_of_isSpace (htail c (List.mem_of_mem_head? hc))
  | list hgap _ _ =>
      rw [List.append_assoc, List.append_assoc]
      exact hgap.blank_of_mem_head? _

namespace Fields

/-- How fields are written behind a keyword. Spaces and tabs may follow. -/
def Written (fields : Fields) (t : Text) : Prop :=
  ∃ gap gap' list tail, IsGap gap ∧ IsField fields.first ∧ IsGap gap' ∧ IsField fields.second ∧
    FlagsWritten list fields.flags ∧ (∀ c ∈ tail, isSpace c = true) ∧
    t = gap ++ fields.first ++ gap' ++ fields.second ++ list ++ tail

variable {t field rest : Text}

theorem next?_eq_some_iff :
    next? t = some (field, rest) ↔
      ∃ gap, IsGap gap ∧ IsField field ∧ (∀ c ∈ rest.head?, isBlank c = true) ∧
        t = gap ++ field ++ rest := by
  constructor
  · intro h
    have hgap := Text.longestPrefix_takeWhile isSpace t
    have hfield := Text.longestPrefix_takeWhile (!isBlank ·) (t.dropWhile isSpace)
    unfold next? at h
    dsimp only at h
    split_ifs at h with hread
    obtain ⟨hlt, hne⟩ := hread
    rw [Option.some.injEq, Prod.mk.injEq] at h
    rw [h.1] at hfield hne
    rw [h.2] at hfield
    refine ⟨t.takeWhile isSpace, ⟨?_, hgap.all⟩, ⟨hne, by simpa using hfield.all⟩,
      by simpa using hfield.stop, ?_⟩
    · intro hnil
      have heq := hgap.eq_append
      rw [hnil, List.nil_append] at heq
      rw [← heq] at hlt
      exact Nat.lt_irrefl _ hlt
    · rw [List.append_assoc, ← hfield.eq_append]
      exact hgap.eq_append
  · rintro ⟨gap, hgap, hfield, hstop, rfl⟩
    have hgap' : Text.LongestPrefix isSpace (gap ++ field ++ rest) gap (field ++ rest) := by
      refine ⟨List.append_assoc .., hgap.2, fun c hc => ?_⟩
      have hblank := hfield.2 c (mem_of_mem_head?_append hfield.1 hc)
      exact Bool.eq_false_iff.mpr fun hspace => by simp [isBlank_of_isSpace hspace] at hblank
    have hfield' : Text.LongestPrefix (!isBlank ·) (field ++ rest) field rest :=
      ⟨rfl, by simpa using hfield.2, by simpa using hstop⟩
    have hlt : (field ++ rest).length < (gap ++ field ++ rest).length := by
      have hpos := List.length_pos_iff.mpr hgap.1
      simp only [List.length_append]
      omega
    unfold next?
    dsimp only
    rw [hgap'.dropWhile_eq, hfield'.takeWhile_eq, hfield'.dropWhile_eq, if_pos ⟨hlt, hfield.1⟩]

/-- Behind a field there is white space or nothing, so that a list has a gap before it. -/
theorem flags?_eq_some_iff {flags : List Text} (hstop : ∀ c ∈ t.head?, isBlank c = true) :
    flags? t = some flags ↔
      ∃ list tail, FlagsWritten list flags ∧ (∀ c ∈ tail, isSpace c = true) ∧
        t = list ++ tail := by
  constructor
  · intro h
    have hgap := Text.longestPrefix_takeWhile isSpace t
    unfold flags? at h
    generalize t.takeWhile isSpace = gap at hgap
    generalize t.dropWhile isSpace = body at hgap h
    split at h
    · obtain rfl := Option.some.inj h
      exact ⟨[], gap, .absent, hgap.all, by simpa using hgap.eq_append⟩
    · next list =>
        have hbody := Text.longestPrefix_takeWhile (· != ']') list
        generalize list.takeWhile (· != ']') = body at hbody h
        split at h
        · cases h
        · next c tail htail =>
            rw [htail] at hbody
            obtain rfl : c = ']' := by simpa using hbody.stop c rfl
            split_ifs at h with hspaces
            obtain rfl := Option.some.inj h
            have hne : gap ≠ [] := by
              rintro rfl
              have hbracket := hstop '[' (by simp [hgap.eq_append])
              simp [isBlank] at hbracket
            have hbracket : ']' ∉ body := fun hmem => by simpa using hbody.all _ hmem
            refine ⟨_, tail, .list ⟨hne, hgap.all⟩ hbracket (Text.runs_eq_iff.mp rfl),
              by simpa using hspaces, ?_⟩
            rw [hgap.eq_append, hbody.eq_append]
            simp
    · cases h
  · rintro ⟨list, tail, hlist, htail, rfl⟩
    unfold flags?
    cases hlist with
    | absent => simp [List.dropWhile_eq_nil_iff.mpr htail]
    | @list gap body _ hgap hbody hflags =>
        have hgap' : Text.LongestPrefix isSpace (gap ++ '[' :: body ++ [']'] ++ tail) gap
            ('[' :: (body ++ ']' :: tail)) :=
          ⟨by simp, hgap.2, by simp [isSpace]⟩
        have hbody' : Text.LongestPrefix (· != ']') (body ++ ']' :: tail) body (']' :: tail) := by
          refine ⟨rfl, fun c hc => ?_, by simp⟩
          have hne : c ≠ ']' := fun h => hbody (h ▸ hc)
          simpa using hne
        have htail' : tail.all isSpace = true := List.all_eq_true.mpr htail
        have hruns : Text.runs isFlagSeparator body = flags := hflags.runs_eq
        simp only [hgap'.dropWhile_eq, hbody'.dropWhile_eq, hbody'.takeWhile_eq, htail', hruns,
          if_true]

theorem ofText?_eq_some_iff {fields : Fields} : ofText? t = some fields ↔ fields.Written t := by
  constructor
  · intro h
    unfold ofText? at h
    simp only [Option.bind_eq_bind, Option.bind_eq_some_iff, Option.pure_def, Option.some.injEq,
      Prod.exists] at h
    obtain ⟨first, rest, hfirst, second, rest', hsecond, flags, hflags, rfl⟩ := h
    obtain ⟨gap, hgap, hfield, -, rfl⟩ := next?_eq_some_iff.mp hfirst
    obtain ⟨gap', hgap', hfield', hstop, rfl⟩ := next?_eq_some_iff.mp hsecond
    obtain ⟨list, tail, hlist, htail, rfl⟩ := (flags?_eq_some_iff hstop).mp hflags
    exact ⟨gap, gap', list, tail, hgap, hfield, hgap', hfield', hlist, htail, by simp⟩
  · rintro ⟨gap, gap', list, tail, hgap, hfield, hgap', hfield', hlist, htail, rfl⟩
    have hstop := hgap'.blank_of_mem_head? (fields.second ++ list ++ tail)
    have hstop' := hlist.blank_of_mem_head? htail
    have hfirst : next? (gap ++ fields.first ++ gap' ++ fields.second ++ list ++ tail) =
        some (fields.first, gap' ++ (fields.second ++ list ++ tail)) :=
      next?_eq_some_iff.mpr ⟨gap, hgap, hfield, hstop, by simp⟩
    have hsecond : next? (gap' ++ (fields.second ++ list ++ tail)) =
        some (fields.second, list ++ tail) :=
      next?_eq_some_iff.mpr ⟨gap', hgap', hfield', hstop', by simp⟩
    have hflags : flags? (list ++ tail) = some fields.flags :=
      (flags?_eq_some_iff hstop').mpr ⟨list, tail, hlist, htail, rfl⟩
    simp only [ofText?, Option.bind_eq_bind, hfirst, hsecond, hflags, Option.bind_some]
    rfl

end Fields

/-! ### Keywords and lines -/

theorem Kind.head?_keyword (kind : Kind) : (Text.lowerAscii kind.keyword).head? = some 'r' := by
  cases kind <;> decide

theorem Kind.ofWord?_eq_some_iff {word : Text} {kind : Kind} :
    ofWord? word = some kind ↔ Text.lowerAscii word = Text.lowerAscii kind.keyword := by
  have hne : Text.lowerAscii (keyword .rule) ≠ Text.lowerAscii (keyword .condition) := by decide
  unfold ofWord?
  constructor
  · intro h
    split_ifs at h with hcondition hrule <;> obtain rfl := Option.some.inj h
    · exact hcondition
    · exact hrule
  · intro h
    cases kind with
    | condition => rw [if_pos h]
    | rule =>
        have hother : Text.lowerAscii word ≠ Text.lowerAscii (keyword .condition) := by rwa [h]
        rw [if_neg hother, if_pos h]

theorem Kind.ofWord?_eq_none_iff {word : Text} :
    ofWord? word = none ↔ ∀ kind : Kind, Text.lowerAscii word ≠ Text.lowerAscii kind.keyword := by
  simp [Option.eq_none_iff_forall_ne_some, ofWord?_eq_some_iff]

namespace Reading

/-- How a line is written that says this: an empty one is blank, one that begins with `#` a comment,
and any other is what its first word makes of it, whatever the case of the letters. -/
inductive Written : Reading → Text → Prop
  | blank : Written .blank []
  | comment (text : Text) : Written .comment ('#' :: text)
  | unrecognized {t word rest : Text} (hne : t ≠ []) (hhash : t.head? ≠ some '#')
      (hword : Text.LongestPrefix (!isBlank ·) t word rest)
      (hkeyword : ∀ kind : Kind, Text.lowerAscii word ≠ Text.lowerAscii kind.keyword) :
      Written .unrecognized t
  | statement {t word rest : Text} {kind : Kind} {fields : Fields}
      (hword : Text.LongestPrefix (!isBlank ·) t word rest)
      (hkeyword : Text.lowerAscii word = Text.lowerAscii kind.keyword)
      (hfields : fields.Written rest) : Written (.statement kind fields) t
  | malformed {t word rest : Text} {kind : Kind}
      (hword : Text.LongestPrefix (!isBlank ·) t word rest)
      (hkeyword : Text.lowerAscii word = Text.lowerAscii kind.keyword)
      (hfields : ∀ fields : Fields, ¬ fields.Written rest) : Written .malformed t

variable {t word rest : Text}

theorem ofText_of_firstWord (hne : t ≠ []) (hhash : t.head? ≠ some '#')
    (hword : Text.LongestPrefix (!isBlank ·) t word rest) :
    ofText t =
      match Kind.ofWord? word with
      | none => .unrecognized
      | some kind =>
        match Fields.ofText? rest with
        | some fields => .statement kind fields
        | none => .malformed := by
  rw [← hword.takeWhile_eq, ← hword.dropWhile_eq]
  unfold ofText
  split
  · exact absurd rfl hne
  · exact absurd rfl hhash
  · rfl

theorem ofText_of_keyword {kind : Kind} (hword : Text.LongestPrefix (!isBlank ·) t word rest)
    (hkeyword : Text.lowerAscii word = Text.lowerAscii kind.keyword) :
    ofText t =
      match Fields.ofText? rest with
      | some fields => .statement kind fields
      | none => .malformed := by
  have hletter := kind.head?_keyword
  rw [← hkeyword, Text.lowerAscii, List.head?_map, Option.map_eq_some_iff] at hletter
  obtain ⟨c, hc, hlower⟩ := hletter
  have hhead : t.head? = some c := by
    rw [hword.eq_append, List.head?_append, hc]
    rfl
  have hne : t ≠ [] := by
    rintro rfl
    cases hhead
  have hhash : t.head? ≠ some '#' := by
    intro h
    rw [hhead, Option.some.injEq] at h
    subst h
    exact absurd hlower (by decide)
  rw [ofText_of_firstWord hne hhash hword, Kind.ofWord?_eq_some_iff.mpr hkeyword]

theorem Written.ofText_eq {reading : Reading} (h : reading.Written t) : ofText t = reading := by
  cases h with
  | blank => rfl
  | comment text => rfl
  | unrecognized hne hhash hword hkeyword =>
      rw [ofText_of_firstWord hne hhash hword, Kind.ofWord?_eq_none_iff.mpr hkeyword]
  | statement hword hkeyword hfields =>
      rw [ofText_of_keyword hword hkeyword, Fields.ofText?_eq_some_iff.mpr hfields]
  | malformed hword hkeyword hfields =>
      have hnone : Fields.ofText? _ = none := Option.eq_none_iff_forall_ne_some.mpr fun fields h =>
        hfields fields (Fields.ofText?_eq_some_iff.mp h)
      rw [ofText_of_keyword hword hkeyword, hnone]

theorem written_ofText (t : Text) : (ofText t).Written t := by
  have hword := Text.longestPrefix_takeWhile (!isBlank ·) t
  generalize t.takeWhile (!isBlank ·) = word at hword
  generalize t.dropWhile (!isBlank ·) = rest at hword
  by_cases hne : t = []
  · subst hne
    exact .blank
  by_cases hhash : t.head? = some '#'
  · obtain ⟨text, rfl⟩ := List.head?_eq_some_iff.mp hhash
    exact .comment text
  rw [ofText_of_firstWord hne hhash hword]
  cases hkind : Kind.ofWord? word with
  | none => exact .unrecognized hne hhash hword (Kind.ofWord?_eq_none_iff.mp hkind)
  | some kind =>
      have hkeyword := Kind.ofWord?_eq_some_iff.mp hkind
      cases hfields : Fields.ofText? rest with
      | some fields => exact .statement hword hkeyword (Fields.ofText?_eq_some_iff.mp hfields)
      | none =>
          refine .malformed hword hkeyword fun fields hwritten => ?_
          rw [Fields.ofText?_eq_some_iff.mpr hwritten] at hfields
          cases hfields

/-- **A line is read exactly as the grammar says.** It is blank if it is empty, a comment if it begins
with `#`, and some other directive if its first word is no keyword. Behind a keyword it is a statement
with the fields that are written there, and malformed if none are; no more than one way of writing
fields gives the same text. -/
theorem ofText_eq_iff_written (t : Text) (reading : Reading) :
    (ofText t = reading ↔ reading.Written t) ∧
      ∀ (rest : Text) (fields fields' : Fields),
        fields.Written rest → fields'.Written rest → fields = fields' := by
  refine ⟨⟨?_, Written.ofText_eq⟩, fun rest fields fields' h h' => ?_⟩
  · rintro rfl
    exact written_ofText t
  · rw [← Fields.ofText?_eq_some_iff] at h h'
    exact Option.some.inj (h.symm.trans h')

private def bracketedFields : Fields where
  first := "[a]".toList
  second := "[b]".toList
  flags := ["R=[301".toList, "L".toList]

/-- Brackets are no list unless they stand behind the second field. -/
theorem ofText_eq_iff_written_of_bracketed :
    (Reading.statement .rule bracketedFields).Written
        "rewriteRULE  [a] \t[b] [ R=[301,,\u2003L ]".toList ∧
      ∀ fields : Fields, fields.Written "  [a] \t[b] [ R=[301,,\u2003L ]".toList →
        fields = bracketedFields := by
  have hread : ofText "rewriteRULE  [a] \t[b] [ R=[301,,\u2003L ]".toList =
      .statement .rule bracketedFields := by decide +kernel
  have hfields : bracketedFields.Written "  [a] \t[b] [ R=[301,,\u2003L ]".toList :=
    Fields.ofText?_eq_some_iff.mp (by decide +kernel)
  obtain ⟨hiff, hunique⟩ := ofText_eq_iff_written "rewriteRULE  [a] \t[b] [ R=[301,,\u2003L ]".toList
    (.statement .rule bracketedFields)
  exact ⟨hiff.mp hread, fun fields h => hunique _ _ _ h hfields⟩

end Reading

end Reroute
