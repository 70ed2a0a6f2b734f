import Mathlib.Data.List.Induction
import Reroute.Rules.Flags

/-!
# Flags token by token

A flag list is read from its first token to its last, and each token adds what it says on its own to
what the tokens before it have said. So a flag that holds one value has that of its last token, and a
flag that may be given several times keeps them all, in their order.
-/

namespace Reroute

namespace FlagToken

def flag? (token : Text) : Option RuleFlag := RuleFlag.ofName? (name token)

def redirect? (token : Text) : Option Permanence :=
  if flag? token = some .redirect then some (Permanence.ofArgument (argument? token)) else none

def skip? (token : Text) : Option Nat :=
  if flag? token = some .skip then (argument? token).bind RuleFlags.skipCount? else none

def contentType? (token : Text) : Option Text :=
  if flag? token = some .contentType then (argument? token).filter (· ≠ []) else none

def cookie? (token : Text) : Option CookieFlag :=
  if flag? token = some .cookie then (argument? token).bind CookieFlag.ofArgument? else none

def change? (token : Text) : Option VariableFlag :=
  if flag? token = some .variable then (argument? token).bind VariableFlag.ofArgument? else none

/-- The token itself, if its argument cannot be used. -/
def unusable? (token : Text) : Option Text :=
  match ({} : RuleFlags).withToken? token with
  | some _ => none
  | none => some token

theorem eq_of_unusable? {token token' : Text} (h : unusable? token = some token') :
    token = token' := by
  unfold unusable? at h
  split at h
  · cases h
  · exact Option.some.inj h

end FlagToken

namespace RuleFlags

def merge (flags later : RuleFlags) : RuleFlags where
  chain := flags.chain || later.chain
  noCase := flags.noCase || later.noCase
  last := flags.last || later.last
  forbidden := flags.forbidden || later.forbidden
  gone := flags.gone || later.gone
  next := flags.next || later.next
  appendQuery := flags.appendQuery || later.appendQuery
  redirect := later.redirect.or flags.redirect
  skip := later.skip.or flags.skip
  contentType := later.contentType.or flags.contentType
  cookies := flags.cookies ++ later.cookies
  changes := flags.changes ++ later.changes
  invalid := flags.invalid.or later.invalid

theorem merge_empty (flags : RuleFlags) : flags.merge {} = flags := by
  simp [merge]

theorem merge_assoc (flags later last : RuleFlags) :
    (flags.merge later).merge last = flags.merge (later.merge last) := by
  simp [merge, Bool.or_assoc, Option.or_assoc]

theorem ofTokens_concat (tokens : List Text) (token : Text) :
    ofTokens (tokens ++ [token]) = (ofTokens tokens).withToken token := by
  rw [ofTokens, List.foldl_append]
  rfl

theorem withToken_eq_merge (flags : RuleFlags) (token : Text) :
    flags.withToken token = flags.merge (ofTokens [token]) := by
  change flags.withToken token = flags.merge (({} : RuleFlags).withToken token)
  unfold withToken withToken?
  cases RuleFlag.ofName? (FlagToken.name token) with
  | none => simp [merge]
  | some flag =>
      dsimp only
      cases flag with
      | skip => cases (FlagToken.argument? token).bind skipCount? <;> simp [merge]
      | contentType => rcases FlagToken.argument? token with _ | _ | _ <;> simp [merge]
      | cookie => cases (FlagToken.argument? token).bind CookieFlag.ofArgument? <;> simp [merge]
      | «variable» => cases (FlagToken.argument? token).bind VariableFlag.ofArgument? <;> simp [merge]
      | _ => simp [merge]

theorem ofTokens_append (tokens later : List Text) :
    ofTokens (tokens ++ later) = (ofTokens tokens).merge (ofTokens later) := by
  induction later using List.reverseRecOn with
  | nil =>
      rw [List.append_nil]
      exact (merge_empty _).symm
  | append_singleton later token ih =>
      rw [← List.append_assoc, ofTokens_concat, withToken_eq_merge, ih, merge_assoc,
        ← withToken_eq_merge, ← ofTokens_concat]

/-- A view of flags that takes or passes over what a token adds is that of the tokens it takes. -/
theorem ofTokens_filter {keeps : Text → Bool} {view : RuleFlags → RuleFlags}
    (hempty : view {} = {})
    (htoken : ∀ flags token, view (flags.withToken token) =
      bif keeps token then (view flags).withToken token else view flags) (tokens : List Text) :
    ofTokens (tokens.filter keeps) = view (ofTokens tokens) := by
  induction tokens using List.reverseRecOn with
  | nil => exact hempty.symm
  | append_singleton tokens token ih =>
      rw [List.filter_append, ofTokens_concat, htoken, ← ih]
      cases hkeeps : keeps token with
      | true => simp [hkeeps, ofTokens_concat]
      | false => simp [hkeeps]

theorem ofTokens_singleton (token : Text) :
    ofTokens [token] = {
      chain := FlagToken.flag? token = some .chain
      noCase := FlagToken.flag? token = some .noCase
      last := FlagToken.flag? token = some .last
      forbidden := FlagToken.flag? token = some .forbidden
      gone := FlagToken.flag? token = some .gone
      next := FlagToken.flag? token = some .next
      appendQuery := FlagToken.flag? token = some .appendQuery
      redirect := FlagToken.redirect? token
      skip := FlagToken.skip? token
      contentType := FlagToken.contentType? token
      cookies := (FlagToken.cookie? token).toList
      changes := (FlagToken.change? token).toList
      invalid := FlagToken.unusable? token } := by
  change ({} : RuleFlags).withToken token = _
  unfold withToken FlagToken.unusable? withToken? FlagToken.redirect? FlagToken.skip?
    FlagToken.contentType? FlagToken.cookie? FlagToken.change? FlagToken.flag?
  cases RuleFlag.ofName? (FlagToken.name token) with
  | none => simp
  | some flag =>
      dsimp only
      cases flag with
      | skip => cases (FlagToken.argument? token).bind skipCount? <;> simp
      | contentType => rcases FlagToken.argument? token with _ | _ | _ <;> simp [Option.filter]
      | cookie => cases (FlagToken.argument? token).bind CookieFlag.ofArgument? <;> simp
      | «variable» => cases (FlagToken.argument? token).bind VariableFlag.ofArgument? <;> simp
      | _ => simp

/-- A flag that holds one value has that of its last token. -/
theorem eq_getLast?_of_merge {β : Type} {field : RuleFlags → Option β} {part : Text → Option β}
    (hempty : field {} = none)
    (hmerge : ∀ flags later, field (merge flags later) = (field later).or (field flags))
    (hpart : ∀ token, field (ofTokens [token]) = part token) (tokens : List Text) :
    field (ofTokens tokens) = (tokens.filterMap part).getLast? := by
  induction tokens using List.reverseRecOn with
  | nil => exact hempty
  | append_singleton tokens token ih =>
      rw [ofTokens_concat, withToken_eq_merge, hmerge, hpart, ih, List.filterMap_append,
        List.getLast?_append]
      cases hvalue : part token <;> simp [hvalue]

/-- A flag that may be given several times keeps the values of all its tokens. -/
theorem eq_filterMap_of_merge {β : Type} {field : RuleFlags → List β} {part : Text → Option β}
    (hempty : field {} = [])
    (hmerge : ∀ flags later, field (merge flags later) = field flags ++ field later)
    (hpart : ∀ token, field (ofTokens [token]) = (part token).toList) (tokens : List Text) :
    field (ofTokens tokens) = tokens.filterMap part := by
  induction tokens using List.reverseRecOn with
  | nil => exact hempty
  | append_singleton tokens token ih =>
      rw [ofTokens_concat, withToken_eq_merge, hmerge, hpart, ih, List.filterMap_append]
      cases hvalue : part token <;> simp [hvalue]

theorem skip_ofTokens (tokens : List Text) :
    (ofTokens tokens).skip = (tokens.filterMap FlagToken.skip?).getLast? :=
  eq_getLast?_of_merge rfl (fun _ _ => rfl) (fun token => by rw [ofTokens_singleton]) tokens

theorem lt_of_skipCount? {arg : Text} {n : Nat} (h : skipCount? arg = some n) :
    n < Count.bound := by
  unfold skipCount? at h
  obtain ⟨count, -, hcount⟩ := Option.bind_eq_some_iff.mp h
  split at hcount
  · obtain rfl := Option.some.inj hcount
    assumption
  · cases hcount

theorem lt_of_mem_skip_ofTokens {tokens : List Text} {n : Nat} (h : n ∈ (ofTokens tokens).skip) :
    n < Count.bound := by
  rw [skip_ofTokens, Option.mem_def] at h
  obtain ⟨token, -, htoken⟩ := List.mem_filterMap.mp (List.mem_of_getLast? h)
  unfold FlagToken.skip? at htoken
  split at htoken
  · obtain ⟨arg, -, harg⟩ := Option.bind_eq_some_iff.mp htoken
    exact lt_of_skipCount? harg
  · cases htoken

theorem changes_ofTokens (tokens : List Text) :
    (ofTokens tokens).changes = tokens.filterMap FlagToken.change? :=
  eq_filterMap_of_merge rfl (fun _ _ => rfl) (fun token => by rw [ofTokens_singleton]) tokens

theorem invalid_ofTokens (tokens : List Text) :
    (ofTokens tokens).invalid = tokens.findSome? FlagToken.unusable? := by
  induction tokens using List.reverseRecOn with
  | nil => rfl
  | append_singleton tokens token ih =>
      rw [ofTokens_concat, withToken_eq_merge, List.findSome?_append, ← ih, merge]
      simp [ofTokens_singleton]

theorem invalid_ofTokens_eq_some_iff {tokens : List Text} {token : Text} :
    (ofTokens tokens).invalid = some token ↔
      ∃ before after, tokens = before ++ token :: after ∧
        FlagToken.unusable? token = some token ∧
        ∀ other ∈ before, FlagToken.unusable? other = none := by
  rw [invalid_ofTokens, List.findSome?_eq_some_iff]
  constructor
  · rintro ⟨before, token', after, htokens, hunusable, hbefore⟩
    obtain rfl := FlagToken.eq_of_unusable? hunusable
    exact ⟨before, after, htokens, hunusable, hbefore⟩
  · rintro ⟨before, after, htokens, hunusable, hbefore⟩
    exact ⟨before, token, after, htokens, hunusable, hbefore⟩

theorem redirect_ofTokens (tokens : List Text) :
    (ofTokens tokens).redirect =
      ((tokens.filter fun token => FlagToken.flag? token = some .redirect).getLast?).map
        fun token => Permanence.ofArgument (FlagToken.argument? token) := by
  have hlast : (ofTokens tokens).redirect = (tokens.filterMap FlagToken.redirect?).getLast? :=
    eq_getLast?_of_merge rfl (fun _ _ => rfl) (fun token => by rw [ofTokens_singleton]) tokens
  rw [hlast, ← List.getLast?_map, ← List.filterMap_eq_map, List.filterMap_filter]
  unfold FlagToken.redirect?
  simp

end RuleFlags

end Reroute
