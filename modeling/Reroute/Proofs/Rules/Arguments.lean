import Mathlib.Data.Nat.Digits.Defs
import Mathlib.Tactic.SplitIfs
import Reroute.Proofs.Rules.Flags

/-!
# Arguments of flags

Four flags of a rule read their argument, and each says in its own way what it can use: a count that
fits into 64 bits, any text that is not empty, at least three fields between colons, or a change of a
variable that has a name. What can be used is read without loss.
-/

namespace Reroute

/-! ### Numbers and fields -/

namespace Text

variable {sep : Char} {t : Text} {fields : List Text} {n : Nat}

/-- The number that digits denote, the units standing last. -/
def decimalValue (digits : Text) : Nat :=
  Nat.ofDigits 10 (digits.reverse.map fun c => c.toNat - '0'.toNat)

theorem toNat?_eq_some_iff :
    toNat? t = some n ↔ t ≠ [] ∧ (∀ c ∈ t, c.isDigit = true) ∧ decimalValue t = n := by
  have hvalue : t.foldl (fun n c => 10 * n + (c.toNat - '0'.toNat)) 0 = decimalValue t := by
    rw [decimalValue, Nat.ofDigits_eq_foldr, List.foldr_map, List.foldr_reverse]
    simp [Nat.add_comm]
  have hread : (t.isEmpty || !t.all Char.isDigit) = true ↔
      ¬ (t ≠ [] ∧ ∀ c ∈ t, c.isDigit = true) := by
    rw [Bool.or_eq_true, List.isEmpty_iff, Bool.not_eq_true', Bool.eq_false_iff, ne_eq,
      List.all_eq_true]
    exact (not_and_or.trans (or_congr_left not_not)).symm
  rw [toNat?, hvalue, ← and_assoc]
  split_ifs with hrefused
  · exact iff_of_false nofun fun h => hread.mp hrefused h.1
  · rw [and_iff_right (not_not.mp (mt hread.mpr hrefused)), Option.some.injEq]

structure FieldsBetween (sep : Char) (t : Text) (fields : List Text) : Prop where
  ne_nil : fields ≠ []
  not_mem : ∀ field ∈ fields, sep ∉ field
  join_eq : join [sep] fields = t

theorem splitBy_eq_splitOnP (sep : Char → Bool) (t : Text) : splitBy sep t = t.splitOnP sep := by
  induction t with
  | nil => rfl
  | cons c t ih =>
      obtain ⟨piece, pieces, hpieces⟩ := List.exists_cons_of_ne_nil (List.splitOnP_ne_nil sep t)
      rw [splitBy, ih, List.splitOnP_cons_eq_if_modifyHead, hpieces]
      rfl

theorem not_mem_of_mem_splitBy (sep : Char → Bool) {piece : Text} (h : piece ∈ splitBy sep t) :
    ∀ c ∈ piece, sep c = false := by
  induction t generalizing piece with
  | nil => simp_all [splitBy]
  | cons c t ih =>
      rw [splitBy] at h
      split_ifs at h with hc
      · rcases List.mem_cons.mp h with rfl | hrest
        · simp
        · exact ih hrest
      · cases hpieces : splitBy sep t with
        | nil => simp_all
        | cons first pieces =>
            rw [hpieces] at h ih
            rcases List.mem_cons.mp h with rfl | hrest
            · rw [List.forall_mem_cons]
              exact ⟨by simpa using hc, ih List.mem_cons_self⟩
            · exact ih (List.mem_cons_of_mem _ hrest)

theorem splitBy_eq_iff : splitBy (· == sep) t = fields ↔ FieldsBetween sep t fields := by
  have hsplit : splitBy (· == sep) t = t.splitOn sep := splitBy_eq_splitOnP _ t
  constructor
  · rintro rfl
    refine ⟨?_, fun field hfield hmem => ?_, ?_⟩
    · rw [hsplit]
      exact List.splitOn_ne_nil _ _
    · simpa using not_mem_of_mem_splitBy _ hfield sep hmem
    · rw [hsplit]
      exact List.intercalate_splitOn sep
  · rintro ⟨hne, hnot, rfl⟩
    rw [splitBy_eq_splitOnP]
    exact List.splitOn_intercalate sep hnot hne

theorem length_splitBy (sep : Char) (t : Text) :
    (splitBy (· == sep) t).length = t.count sep + 1 := by
  induction t with
  | nil => rfl
  | cons c t ih =>
      rw [splitBy, List.count_cons]
      split_ifs with hc
      · simp [ih]
      · cases hpieces : splitBy (· == sep) t with
        | nil => simp [hpieces] at ih
        | cons piece pieces =>
            rw [hpieces] at ih
            simpa using ih

theorem FieldsBetween.length_eq (h : FieldsBetween sep t fields) :
    fields.length = t.count sep + 1 := by
  rw [← splitBy_eq_iff.mpr h, length_splitBy]

theorem before_ne_nil_iff (hmem : sep ∈ t) : before sep t ≠ [] ↔ t.head? ≠ some sep := by
  cases t with
  | nil => cases hmem
  | cons c t => by_cases hc : c = sep <;> simp [before, hc]

end Text

/-- How a count is written: in digits, with or without a plus sign before them. There may be zeros in
front. -/
def Count.Written (n : Nat) (t : Text) : Prop :=
  ∃ digits, (t = digits ∨ t = '+' :: digits) ∧ digits ≠ [] ∧ (∀ c ∈ digits, c.isDigit = true) ∧
    Text.decimalValue digits = n ∧ n < 2 ^ 64

/-! ### What can be used -/

theorem RuleFlags.skipCount?_eq_some_iff {arg : Text} {n : Nat} :
    skipCount? arg = some n ↔ Count.Written n arg := by
  have hread : ∀ digits : Text,
      ((Text.toNat? digits).bind fun count => if count < Count.bound then some count else none) =
          some n ↔
        digits ≠ [] ∧ (∀ c ∈ digits, c.isDigit = true) ∧ Text.decimalValue digits = n ∧
          n < 2 ^ 64 := by
    intro digits
    have hbound : Count.bound = 2 ^ 64 := by decide
    rw [Option.bind_eq_some_iff, hbound]
    constructor
    · rintro ⟨count, hcount, hlt⟩
      obtain ⟨hne, hdigits, rfl⟩ := Text.toNat?_eq_some_iff.mp hcount
      split_ifs at hlt with h
      obtain rfl := Option.some.inj hlt
      exact ⟨hne, hdigits, rfl, h⟩
    · rintro ⟨hne, hdigits, rfl, hlt⟩
      exact ⟨_, Text.toNat?_eq_some_iff.mpr ⟨hne, hdigits, rfl⟩, if_pos hlt⟩
  by_cases hhead : arg.head? = some '+'
  · obtain ⟨digits, rfl⟩ := List.head?_eq_some_iff.mp hhead
    refine (hread digits).trans ⟨fun h => ⟨digits, .inr rfl, h⟩, ?_⟩
    rintro ⟨digits', rfl | heq, h⟩
    · -- A plus sign is no digit.
      have hdigit := h.2.1 '+' List.mem_cons_self
      simp at hdigit
    · obtain rfl := (List.cons.inj heq).2
      exact h
  · have hbare : skipCount? arg =
        (Text.toNat? arg).bind fun count => if count < Count.bound then some count else none := by
      unfold skipCount?
      split
      · simp at hhead
      · rfl
    rw [hbare, hread]
    refine ⟨fun h => ⟨arg, .inl rfl, h⟩, ?_⟩
    rintro ⟨digits, rfl | rfl, h⟩
    · exact h
    · exact absurd rfl hhead

namespace CookieFlag

variable {arg : Text}

theorem isSome_ofArgument?_iff : (ofArgument? arg).isSome = true ↔ 2 ≤ arg.count ':' := by
  have hlength := Text.length_splitBy ':' arg
  unfold ofArgument?
  split
  · next hfields =>
      rw [hfields] at hlength
      simp only [List.length_cons] at hlength
      exact iff_of_true rfl (by omega)
  · next hfew =>
      refine iff_of_false Bool.false_ne_true fun hcount => ?_
      match hfields : Text.splitBy (· == ':') arg with
      | name :: value :: domain :: more => exact hfew _ _ _ _ hfields
      | [] | [_] | [_, _] =>
          simp only [hfields, List.length_cons, List.length_nil] at hlength
          omega

theorem exists_fields_of_count (hcount : 2 ≤ arg.count ':') :
    ∃ name value domain more,
      Text.FieldsBetween ':' arg (name :: value :: domain :: more) ∧
        ofArgument? arg =
          some { name, value, domain, lifetime := more[0]?, path := more[1]? } ∧
        (arg.count ':' ≤ 4 → Text.join [':']
          (name :: value :: domain :: (more[0]?.toList ++ more[1]?.toList)) = arg) := by
  obtain ⟨spec, hspec⟩ := Option.isSome_iff_exists.mp (isSome_ofArgument?_iff.mpr hcount)
  unfold ofArgument? at hspec ⊢
  split at hspec
  · next name value domain more hsplit =>
      have hfields := Text.splitBy_eq_iff.mp hsplit
      refine ⟨name, value, domain, more, hfields, rfl, fun hfew => ?_⟩
      have hlength := hfields.length_eq
      simp only [List.length_cons] at hlength
      have hmore : more[0]?.toList ++ more[1]?.toList = more := by
        match more with
        | [] | [_] | [_, _] => rfl
        | _ :: _ :: _ :: _ =>
            simp only [List.length_cons] at hlength
            omega
      rw [hmore, hfields.join_eq]
  · cases hspec

end CookieFlag

namespace VariableFlag

variable {arg : Text}

theorem ofArgument?_bang (name : Text) :
    ofArgument? ('!' :: name) = if name = [] then none else some (.remove name) := rfl

theorem ofArgument?_of_head (hbang : arg.head? ≠ some '!') :
    ofArgument? arg =
      if ':' ∈ arg ∧ Text.before ':' arg ≠ [] then
        some (.assign (Text.before ':' arg) (Text.after ':' arg))
      else none := by
  unfold ofArgument?
  split
  · simp at hbang
  · rfl

theorem isSome_ofArgument?_iff :
    (ofArgument? arg).isSome = true ↔
      (∃ name, name ≠ [] ∧ arg = '!' :: name) ∨
        arg.head? ≠ some '!' ∧ ':' ∈ arg ∧ arg.head? ≠ some ':' := by
  by_cases hbang : arg.head? = some '!'
  · obtain ⟨name, rfl⟩ := List.head?_eq_some_iff.mp hbang
    rw [ofArgument?_bang]
    by_cases hname : name = [] <;> simp [hname]
  · have hremove : ¬ ∃ name, name ≠ [] ∧ arg = '!' :: name := by
      rintro ⟨name, -, rfl⟩
      exact hbang rfl
    rw [ofArgument?_of_head hbang, or_iff_right hremove, and_iff_right hbang]
    by_cases hcolon : ':' ∈ arg
    · by_cases hhead : arg.head? = some ':' <;>
        simp [hcolon, Text.before_ne_nil_iff hcolon, hhead]
    · simp [hcolon]

theorem exists_assign_of_head (hbang : arg.head? ≠ some '!') (hcolon : ':' ∈ arg)
    (hhead : arg.head? ≠ some ':') :
    ∃ name value, name ≠ [] ∧ ':' ∉ name ∧ name ++ ':' :: value = arg ∧
      ofArgument? arg = some (.assign name value) := by
  have hname := (Text.before_ne_nil_iff hcolon).mpr hhead
  refine ⟨_, _, hname, Text.not_mem_before ':' arg, Text.before_append_after hcolon, ?_⟩
  rw [ofArgument?_of_head hbang, if_pos ⟨hcolon, hname⟩]

end VariableFlag

/-! ### Tokens with an argument -/

namespace FlagToken

variable {short long : String} {arg token : Text}

/-- A token is a flag under its short or long name, in any case, with an argument. -/
def Carries (short long : String) (arg token : Text) : Prop :=
  ∃ name, (Text.lowerAscii name = short.toList ∨ Text.lowerAscii name = long.toList) ∧
    token = name ++ '=' :: arg

/-- The argument begins behind the first `=`, since no name has one. -/
theorem Carries.flag?_eq (h : Carries short long arg token) (flag : RuleFlag)
    (hshort : '=' ∉ short.toList ∧ RuleFlag.ofName? short.toList = some flag)
    (hlong : '=' ∉ long.toList ∧ RuleFlag.ofName? long.toList = some flag) :
    flag? token = some flag ∧ argument? token = some arg := by
  obtain ⟨name, hname, rfl⟩ := h
  have hnone : '=' ∉ name := by
    intro hmem
    have hlower : '=' ∈ Text.lowerAscii name := List.mem_map.mpr ⟨'=', hmem, by decide⟩
    rcases hname with hname | hname
    · exact hshort.1 (hname ▸ hlower)
    · exact hlong.1 (hname ▸ hlower)
  have hbefore : Text.before '=' (name ++ '=' :: arg) = name := by
    rw [Text.before_append, if_neg hnone]
    simp [Text.before]
  have hafter : Text.after '=' (name ++ '=' :: arg) = arg := by
    rw [Text.after_append, if_neg hnone]
    simp [Text.after]
  constructor
  · rw [flag?, FlagToken.name, hbefore]
    rcases hname with hname | hname
    · rw [hname, hshort.2]
    · rw [hname, hlong.2]
  · rw [argument?, hafter, if_pos (by simp)]

theorem unusable?_eq_none_iff :
    unusable? token = none ↔ (({} : RuleFlags).withToken? token).isSome = true := by
  unfold unusable?
  cases ({} : RuleFlags).withToken? token <;> simp

end FlagToken

namespace RuleFlags

variable {arg token : Text}

theorem withToken_of_withToken? {flags flags' : RuleFlags}
    (h : flags.withToken? token = some flags') : flags.withToken token = flags' := by
  rw [withToken, h]

theorem withToken?_skip (h : FlagToken.Carries "s" "skip" arg token) (flags : RuleFlags) :
    flags.withToken? token =
      (skipCount? arg).map fun count => { flags with skip := some count } := by
  obtain ⟨hflag, hargument⟩ := h.flag?_eq .skip (by decide) (by decide)
  unfold FlagToken.flag? at hflag
  rw [withToken?, hflag, hargument]
  rfl

theorem withToken?_contentType (h : FlagToken.Carries "t" "type" arg token) (flags : RuleFlags) :
    flags.withToken? token =
      if arg = [] then none else some { flags with contentType := some arg } := by
  obtain ⟨hflag, hargument⟩ := h.flag?_eq .contentType (by decide) (by decide)
  unfold FlagToken.flag? at hflag
  rw [withToken?, hflag, hargument]
  cases arg <;> rfl

theorem withToken?_cookie (h : FlagToken.Carries "co" "cookie" arg token) (flags : RuleFlags) :
    flags.withToken? token = (CookieFlag.ofArgument? arg).map fun spec =>
      { flags with cookies := flags.cookies ++ [spec] } := by
  obtain ⟨hflag, hargument⟩ := h.flag?_eq .cookie (by decide) (by decide)
  unfold FlagToken.flag? at hflag
  rw [withToken?, hflag, hargument]
  rfl

theorem withToken?_variable (h : FlagToken.Carries "e" "env" arg token) (flags : RuleFlags) :
    flags.withToken? token = (VariableFlag.ofArgument? arg).map fun change =>
      { flags with changes := flags.changes ++ [change] } := by
  obtain ⟨hflag, hargument⟩ := h.flag?_eq .variable (by decide) (by decide)
  unfold FlagToken.flag? at hflag
  rw [withToken?, hflag, hargument]
  rfl

/-- **Arguments are read without loss.** `S` takes what is written as a count and skips that many
rules, and `T` takes any text but the empty one. `CO` takes at least three fields between colons: they
are the name, the value and the domain, and then the lifetime and the path if they are there. `E`
takes a name behind an exclamation mark, or else a name that is not empty, up to the first colon,
and all that follows it as the value. Nothing else can be used, and no other flag is touched. -/
theorem withToken_argument (arg token : Text) :
    (FlagToken.Carries "s" "skip" arg token →
      (FlagToken.unusable? token = none ↔ ∃ n, Count.Written n arg) ∧
      ∀ n, Count.Written n arg → ∀ flags : RuleFlags,
        flags.withToken token = { flags with skip := some n }) ∧
    (FlagToken.Carries "t" "type" arg token →
      (FlagToken.unusable? token = none ↔ arg ≠ []) ∧
      (arg ≠ [] → ∀ flags : RuleFlags,
        flags.withToken token = { flags with contentType := some arg })) ∧
    (FlagToken.Carries "co" "cookie" arg token →
      (FlagToken.unusable? token = none ↔ 2 ≤ arg.count ':') ∧
      (2 ≤ arg.count ':' → ∃ name value domain more,
        Text.FieldsBetween ':' arg (name :: value :: domain :: more) ∧
        (∀ flags : RuleFlags, flags.withToken token = { flags with
          cookies := flags.cookies ++
            [{ name, value, domain, lifetime := more[0]?, path := more[1]? }] }) ∧
        (arg.count ':' ≤ 4 → Text.join [':']
          (name :: value :: domain :: (more[0]?.toList ++ more[1]?.toList)) = arg))) ∧
    (FlagToken.Carries "e" "env" arg token →
      (FlagToken.unusable? token = none ↔
        (∃ name, name ≠ [] ∧ arg = '!' :: name) ∨
          arg.head? ≠ some '!' ∧ ':' ∈ arg ∧ arg.head? ≠ some ':') ∧
      (∀ name, name ≠ [] → arg = '!' :: name → ∀ flags : RuleFlags,
        flags.withToken token = { flags with changes := flags.changes ++ [.remove name] }) ∧
      (arg.head? ≠ some '!' → ':' ∈ arg → arg.head? ≠ some ':' →
        ∃ name value, name ++ ':' :: value = arg ∧ ':' ∉ name ∧ ∀ flags : RuleFlags,
          flags.withToken token =
            { flags with changes := flags.changes ++ [.assign name value] })) := by
  refine ⟨fun h => ⟨?_, ?_⟩, fun h => ⟨?_, ?_⟩, fun h => ⟨?_, ?_⟩, fun h => ⟨?_, ?_, ?_⟩⟩
  · rw [FlagToken.unusable?_eq_none_iff, withToken?_skip h, Option.isSome_map,
      Option.isSome_iff_exists]
    exact exists_congr fun n => skipCount?_eq_some_iff
  · intro n hn flags
    apply withToken_of_withToken?
    rw [withToken?_skip h, skipCount?_eq_some_iff.mpr hn]
    rfl
  · rw [FlagToken.unusable?_eq_none_iff, withToken?_contentType h]
    split_ifs with hnil <;> simp [hnil]
  · intro hne flags
    apply withToken_of_withToken?
    rw [withToken?_contentType h, if_neg hne]
  · rw [FlagToken.unusable?_eq_none_iff, withToken?_cookie h, Option.isSome_map]
    exact CookieFlag.isSome_ofArgument?_iff
  · intro hcount
    obtain ⟨name, value, domain, more, hfields, hspec, hjoin⟩ :=
      CookieFlag.exists_fields_of_count hcount
    refine ⟨name, value, domain, more, hfields, fun flags => ?_, hjoin⟩
    apply withToken_of_withToken?
    rw [withToken?_cookie h, hspec]
    rfl
  · rw [FlagToken.unusable?_eq_none_iff, withToken?_variable h, Option.isSome_map]
    exact VariableFlag.isSome_ofArgument?_iff
  · rintro name hname rfl flags
    apply withToken_of_withToken?
    rw [withToken?_variable h, VariableFlag.ofArgument?_bang, if_neg hname]
    rfl
  · intro hbang hcolon hhead
    obtain ⟨name, value, -, hname, harg, hchange⟩ :=
      VariableFlag.exists_assign_of_head hbang hcolon hhead
    refine ⟨name, value, harg, hname, fun flags => ?_⟩
    apply withToken_of_withToken?
    rw [withToken?_variable h, hchange]
    rfl

/-- A count with a sign and zeros in front, a cookie with an `=` and empty fields, and a name with a
colon, which stands behind an exclamation mark. -/
theorem withToken_argument_of_odd :
    Count.Written 7 "+007".toList ∧
      ({} : RuleFlags).withToken "Skip=+007".toList = { skip := some 7 } ∧
      2 ≤ "a:b=c:".toList.count ':' ∧
      FlagToken.unusable? "co=a:b=c:".toList = none ∧
      ({} : RuleFlags).withToken "E=!a:b".toList = { changes := [.remove "a:b".toList] } := by
  have hskip : FlagToken.Carries "s" "skip" "+007".toList "Skip=+007".toList :=
    ⟨"Skip".toList, .inr (by decide), rfl⟩
  have hcookie : FlagToken.Carries "co" "cookie" "a:b=c:".toList "co=a:b=c:".toList :=
    ⟨"co".toList, .inl (by decide), rfl⟩
  have hvariable : FlagToken.Carries "e" "env" "!a:b".toList "E=!a:b".toList :=
    ⟨"E".toList, .inl (by decide), rfl⟩
  have hcount : Count.Written 7 "+007".toList :=
    ⟨"007".toList, .inr rfl, by decide, by simp, by decide, by decide⟩
  have hcolons : 2 ≤ "a:b=c:".toList.count ':' := by decide
  exact ⟨hcount, ((withToken_argument _ _).1 hskip).2 7 hcount {}, hcolons,
    ((withToken_argument _ _).2.2.1 hcookie).1.mpr hcolons,
    ((withToken_argument _ _).2.2.2 hvariable).2.1 _ (by decide) rfl {}⟩

end RuleFlags

end Reroute
