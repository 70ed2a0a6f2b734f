import Reroute.Proofs.Scan

/-!
# Group references and their digits

The digit of a group reference may be one of any script, but its number is read from an ASCII digit
only: every other digit counts as zero. So each reference stands for the group of the digit as which
its own is read, and where that group is missing, the reference is reported with that digit. In a text
whose references have ASCII digits this is the reference as it is written.
-/

namespace Reroute

namespace Unicode.Digit

variable {c : Char}

/-- The value of a decimal digit: how far it stands behind the zero of its set. -/
def value (c : Char) : Nat :=
  match zeros.find? fun first => first ≤ c.toNat && c.toNat ≤ first + 9 with
  | some first => c.toNat - first
  | none => 0

def folded (c : Char) : Char := if c.isDigit then c else '0'

/-- No two sets of digits overlap, so that the value does not depend on the order of the table. -/
theorem value_of_mem_zeros {first : Nat} (hfirst : first ∈ zeros) (hle : first ≤ c.toNat)
    (hlast : c.toNat ≤ first + 9) : value c = c.toNat - first := by
  have hapart : ∀ a ∈ zeros, ∀ b ∈ zeros, a = b ∨ a + 9 < b ∨ b + 9 < a := by decide +kernel
  unfold value
  cases hfound : zeros.find? fun first => first ≤ c.toNat && c.toNat ≤ first + 9 with
  | none =>
      have hmiss := List.find?_eq_none.mp hfound first hfirst
      simp [hle, hlast] at hmiss
  | some other =>
      have hother := List.find?_some hfound
      simp only [Bool.and_eq_true, decide_eq_true_eq] at hother
      have hcases := hapart first hfirst other (List.mem_of_find?_eq_some hfound)
      obtain rfl : first = other := by omega
      rfl

theorem bounds_of_isDigit (h : c.isDigit = true) : 0x30 ≤ c.toNat ∧ c.toNat ≤ 0x30 + 9 := by
  simpa [Char.isDigit, UInt32.le_iff_toNat_le] using h

theorem value_of_isDigit (h : c.isDigit = true) : value c = asciiValue c := by
  obtain ⟨hle, hlast⟩ := bounds_of_isDigit h
  rw [value_of_mem_zeros (by decide) hle hlast, asciiValue, if_pos h]
  rfl

theorem isDigit_folded (c : Char) : (folded c).isDigit = true := by
  unfold folded
  split
  · assumption
  · rfl

theorem folded_eq_self_iff : folded c = c ↔ c.isDigit = true := by
  constructor
  · intro h
    rw [← h]
    exact isDigit_folded c
  · intro h
    exact if_pos h

theorem decimal_folded (c : Char) : isDigit (folded c) = true := by
  obtain ⟨hle, hlast⟩ := bounds_of_isDigit (isDigit_folded c)
  rw [isDigit, List.any_eq_true]
  exact ⟨0x30, by decide, by simp [hle, hlast]⟩

theorem asciiValue_eq (c : Char) : asciiValue c = value (folded c) := by
  rw [value_of_isDigit (isDigit_folded c)]
  unfold folded
  split
  · rfl
  · rename_i h
    rw [asciiValue, if_neg h]
    rfl

theorem ofNat_value (h : c.isDigit = true) : Text.ofNat (value c) = [c] := by
  obtain ⟨hle, hlast⟩ := bounds_of_isDigit h
  have hvalue : value c = c.toNat - 0x30 := value_of_mem_zeros (by decide) hle hlast
  have hchar : Nat.digitChar (c.toNat - 0x30) = c := by
    apply Char.toNat_inj.mp
    rw [Nat.toNat_digitChar_of_lt_ten (by omega)]
    omega
  rw [Text.ofNat, hvalue, Nat.toDigits_of_lt_base (by omega), hchar]

end Unicode.Digit

namespace Reference

variable {condition : Option Groups} {rule : Groups} {source : GroupSource} {r : Reference}
  {t : Text} {pieces : List (Piece Reference)} {fault : Fault}

/-- The reference with the digit as which its own is read. -/
def asRead : Reference → Reference
  | .var name closed => .var name closed
  | .group source digit _ =>
    .group source (Unicode.Digit.folded digit) (Unicode.Digit.decimal_folded digit)

def group? (condition : Option Groups) (rule : Groups) : Reference → Option Text
  | .var .. => none
  | .group source digit _ =>
    (groups condition rule source).bind (Groups.value? · (Unicode.Digit.value digit))

def missing : Reference → Fault
  | .var name _ => .undefinedVariable name
  | .group source digit _ => .missingGroup source (Unicode.Digit.value digit)

def filledWith (group? : Reference → Option Text) : Piece Reference → Text
  | .char c => [c]
  | .reference r => (group? r).getD []

theorem value_eq_of_kind (env : Environment) (url : Text) (hr : r.kind = .group source) :
    r.value env url condition rule =
      match r.asRead.group? condition rule with
      | some text => .ok text
      | none => .error r.asRead.missing := by
  cases r with
  | var name closed => cases hr
  | group source digit decimal =>
      rw [value, Groups.read, Unicode.Digit.asciiValue_eq]
      rfl

theorem value_eq_ok_iff {env : Environment} {url text : Text} (hr : r.kind = .group source) :
    r.value env url condition rule = .ok text ↔ r.asRead.group? condition rule = some text := by
  rw [value_eq_of_kind env url hr]
  cases r.asRead.group? condition rule <;> simp

theorem value_eq_error_iff {env : Environment} {url : Text} (hr : r.kind = .group source) :
    r.value env url condition rule = .error fault ↔
      r.asRead.group? condition rule = none ∧ fault = r.asRead.missing := by
  rw [value_eq_of_kind env url hr]
  cases r.asRead.group? condition rule <;> simp [eq_comm]

theorem detail?_missing_asRead (hr : r.kind = .group source) :
    r.asRead.missing.detail? = some r.asRead.text := by
  cases r with
  | var name closed => cases hr
  | group source digit decimal =>
      have hnumber := Unicode.Digit.ofNat_value (Unicode.Digit.isDigit_folded digit)
      rw [asRead, missing, Fault.detail?, hnumber, text]

theorem asRead_eq_self_iff (hr : r.kind = .group source) :
    r.asRead = r ↔ ∃ digit, digit.isDigit = true ∧ r.text = [source.sigil, digit] := by
  cases r with
  | var name closed => cases hr
  | group source' digit decimal =>
      obtain rfl : source' = source := by simpa [kind] using hr
      simp [asRead, text, Unicode.Digit.folded_eq_self_iff]

/-! ### One step -/

theorem expand_group_eq (h : Scanned (·.kind = .group source) t pieces) :
    Groups.expand source (groups condition rule source) t =
      Piece.expand (Reference.value .empty [] condition rule) pieces :=
  Kind.expand_eq (k := .group source) h

/-- The leftmost reference without a group decides what is reported. -/
theorem expand_group_eq_error_iff (h : Scanned (·.kind = .group source) t pieces) :
    Groups.expand source (groups condition rule source) t = .error fault ↔
      ∃ before r after, Piece.references pieces = before ++ r :: after ∧
        (∀ other ∈ before, ∃ text, other.asRead.group? condition rule = some text) ∧
        r.asRead.group? condition rule = none ∧ fault = r.asRead.missing := by
  have hkind : ∀ r ∈ Piece.references pieces, r.kind = .group source := by
    intro r hr
    exact h.of_mem (Piece.mem_references.mp hr)
  rw [expand_group_eq h, Piece.expand_eq_error_iff]
  refine exists_congr fun before => exists_congr fun r => exists_congr fun after => ?_
  refine and_congr_right fun hreferences => ?_
  rw [value_eq_error_iff (hkind r (by simp [hreferences])), and_comm]
  refine and_congr_left' (forall₂_congr fun other hother => exists_congr fun text => ?_)
  exact value_eq_ok_iff (hkind other (by simp [hreferences, hother]))

theorem expand_group_eq_ok_iff {u : Text} (h : Scanned (·.kind = .group source) t pieces) :
    Groups.expand source (groups condition rule source) t = .ok u ↔
      (∀ r ∈ Piece.references pieces, ∃ text, r.asRead.group? condition rule = some text) ∧
      u = pieces.flatMap (filledWith fun r => r.asRead.group? condition rule) := by
  have hfilled : pieces.flatMap (Piece.filled (Reference.value .empty [] condition rule)) =
      pieces.flatMap (filledWith fun r => r.asRead.group? condition rule) := by
    refine List.flatMap_congr fun piece hpiece => ?_
    cases piece with
    | char c => rfl
    | reference r =>
        rw [Piece.filled, filledWith, value_eq_of_kind _ _ (h.of_mem hpiece)]
        cases r.asRead.group? condition rule <;> rfl
  rw [expand_group_eq h, Piece.expand_eq, resultOf_eq_ok_iff, hfilled, List.findSome?_eq_none_iff,
    eq_comm (b := u)]
  refine and_congr_left' (forall₂_congr fun r hr => ?_)
  rw [Piece.fault?_eq_none_iff]
  exact exists_congr fun text => value_eq_ok_iff (h.of_mem (Piece.mem_references.mp hr))

theorem asRead_eq_self_of_ascii (h : Scanned (·.kind = .group source) t pieces)
    (hascii : ∀ digit, Unicode.Digit.isDigit digit = true → [source.sigil, digit] <:+: t →
      digit.isDigit = true) :
    ∀ r ∈ Piece.references pieces, r.asRead = r ∧ r.text <:+: t := by
  intro r hr
  have hmem := Piece.mem_references.mp hr
  have hwritten : r.text <:+: t := by
    obtain ⟨before, after, rfl⟩ := List.append_of_mem hmem
    have htext := h.flatMap_text
    rw [List.flatMap_append, List.flatMap_cons] at htext
    exact ⟨_, _, by rw [List.append_assoc, ← htext]; rfl⟩
  refine ⟨?_, hwritten⟩
  rw [asRead_eq_self_iff (h.of_mem hmem)]
  have hkind := h.of_mem hmem
  cases r with
  | var name closed => cases hkind
  | group source' digit decimal =>
      obtain rfl : source' = source := by simpa [kind] using hkind
      exact ⟨digit, hascii digit decimal hwritten, rfl⟩

/-- **A group reference stands for the group of the digit as which its own is read.** A step replaces
every reference by that group, and if a group is missing, the leftmost reference without one is
reported with that digit. ASCII digits are read as they are. So if no other digit stands behind a
sigil, what is reported occurs in the text, and every reference is replaced by the group that has the
value of its digit for its number. -/
theorem group_references_as_read (source : GroupSource) (condition : Option Groups) (rule : Groups)
    (t : Text) :
    ∃ pieces, Scanned (·.kind = .group source) t pieces ∧
      (∀ fault, Groups.expand source (groups condition rule source) t = .error fault ↔
        ∃ before r after, Piece.references pieces = before ++ r :: after ∧
          (∀ other ∈ before, ∃ text, other.asRead.group? condition rule = some text) ∧
          r.asRead.group? condition rule = none ∧ fault = r.asRead.missing) ∧
      (∀ u, Groups.expand source (groups condition rule source) t = .ok u ↔
        (∀ r ∈ Piece.references pieces, ∃ text, r.asRead.group? condition rule = some text) ∧
        u = pieces.flatMap (filledWith fun r => r.asRead.group? condition rule)) ∧
      (∀ r ∈ Piece.references pieces, r.asRead.missing.detail? = some r.asRead.text ∧
        (r.asRead = r ↔ ∃ digit, digit.isDigit = true ∧ r.text = [source.sigil, digit])) ∧
      ((∀ digit, Unicode.Digit.isDigit digit = true → [source.sigil, digit] <:+: t →
          digit.isDigit = true) →
        (∀ fault, Groups.expand source (groups condition rule source) t = .error fault →
          ∃ r ∈ Piece.references pieces, r.group? condition rule = none ∧
            fault.detail? = some r.text ∧ r.text <:+: t) ∧
        ∀ u, Groups.expand source (groups condition rule source) t = .ok u →
          (∀ r ∈ Piece.references pieces, ∃ text, r.group? condition rule = some text) ∧
          u = pieces.flatMap (filledWith fun r => r.group? condition rule)) := by
  obtain ⟨pieces, hscan⟩ := Scanned.exists_scanned (·.kind = .group source) t
  have hkind : ∀ r ∈ Piece.references pieces, r.kind = .group source := by
    intro r hr
    exact hscan.of_mem (Piece.mem_references.mp hr)
  refine ⟨pieces, hscan, fun _ => expand_group_eq_error_iff hscan,
    fun _ => expand_group_eq_ok_iff hscan,
    fun r hr => ⟨detail?_missing_asRead (hkind r hr), asRead_eq_self_iff (hkind r hr)⟩, ?_⟩
  intro hascii
  have hread := asRead_eq_self_of_ascii hscan hascii
  constructor
  · intro fault hfault
    obtain ⟨before, r, after, hreferences, -, hnone, rfl⟩ :=
      (expand_group_eq_error_iff hscan).mp hfault
    have hr : r ∈ Piece.references pieces := by simp [hreferences]
    have hdetail := detail?_missing_asRead (hkind r hr)
    rw [(hread r hr).1] at hnone hdetail ⊢
    exact ⟨r, hr, hnone, hdetail, (hread r hr).2⟩
  · intro u hu
    obtain ⟨hall, rfl⟩ := expand_group_eq_ok_iff hscan |>.mp hu
    refine ⟨fun r hr => (hread r hr).1 ▸ hall r hr, List.flatMap_congr fun piece hpiece => ?_⟩
    cases piece with
    | char c => rfl
    | reference r => rw [filledWith, filledWith, (hread r (Piece.mem_references.mpr hpiece)).1]

private def letters : Groups := [some "/ab".toList, some ['a'], some ['b']]

/-- The first reference has a group. The second has none and is reported as it is written. -/
theorem group_references_as_read_of_missing :
    (∀ digit, Unicode.Digit.isDigit digit = true → ['$', digit] <:+: "/$1/$3".toList →
      digit.isDigit = true) ∧
    ∃ r : Reference, r.group? none letters = none ∧ r.text <:+: "/$1/$3".toList ∧
      (Fault.missingGroup .rule 3).detail? = some r.text := by
  have hascii : ∀ digit, Unicode.Digit.isDigit digit = true → ['$', digit] <:+: "/$1/$3".toList →
      digit.isDigit = true := by
    intro digit _ hwritten
    have hcases : digit = '1' ∨ digit = '3' := by simpa [List.infix_cons_iff] using hwritten
    rcases hcases with rfl | rfl <;> rfl
  have hfault : Groups.expand .rule (groups none letters .rule) "/$1/$3".toList =
      .error (.missingGroup .rule 3) := by
    rfl
  obtain ⟨_, -, -, -, -, hwritten⟩ :=
    group_references_as_read .rule none letters "/$1/$3".toList
  obtain ⟨r, -, hnone, hdetail, hinfix⟩ := (hwritten hascii).1 _ hfault
  exact ⟨hascii, r, hnone, hinfix, hdetail⟩

/-- A digit of another script stands for the whole match, whatever its value, and is reported with a
zero that is written nowhere. -/
theorem foreign_digit_read_as_zero :
    (¬ ∀ (source : GroupSource) (condition : Option Groups) (rule : Groups) (t : Text)
      (fault : Fault), Groups.expand source (groups condition rule source) t = .error fault →
        ∃ detail, fault.detail? = some detail ∧ detail <:+: t) ∧
    Unicode.Digit.value '\u0662' = 2 ∧ letters.value? 2 = some ['b'] ∧
    Groups.expand .rule (groups none letters .rule) ['$', '\u0662'] = .ok "/ab".toList := by
  refine ⟨?_, by decide, rfl, rfl⟩
  intro hwritten
  obtain ⟨detail, hdetail, hinfix⟩ := hwritten .condition none letters ['%', '\u0662'] _ rfl
  obtain rfl : ['%', '0'] = detail := Option.some.inj hdetail
  simp [List.infix_cons_iff] at hinfix

end Reference

end Reroute
