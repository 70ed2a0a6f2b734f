import Mathlib.Data.List.Forall2
import Mathlib.Data.List.TakeWhile
import Reroute.Proofs.Rules.Flags

/-!
# Flag lists

A flag list says what its parts say, put together: no flag looks at what another has said, and a
token that cannot be used takes back nothing. So tokens that say nothing can be left out, and only the
record of the first token that cannot be used knows how a token was spelled.
-/

namespace Reroute

/-! ### Spelling -/

namespace FlagToken

/-- One token is the other with its name in other cases. What stands from the first `=` on is kept. -/
def Respelled (token token' : Text) : Prop :=
  Text.lowerAscii (Text.before '=' token) = Text.lowerAscii (Text.before '=' token') ∧
    token.dropWhile (· != '=') = token'.dropWhile (· != '=')

instance (token token' : Text) : Decidable (Respelled token token') := instDecidableAnd

variable {token token' : Text}

theorem argument?_eq (token : Text) :
    argument? token =
      if token.dropWhile (· != '=') = [] then none
      else some ((token.dropWhile (· != '=')).drop 1) := by
  have hnone : token.dropWhile (· != '=') = [] ↔ '=' ∉ token := by
    simp [List.dropWhile_eq_nil_iff, List.forall_mem_ne']
  unfold argument? Text.after
  by_cases hmem : '=' ∈ token <;> simp [hnone, hmem]

theorem Respelled.withToken?_eq (h : Respelled token token') (flags : RuleFlags) :
    flags.withToken? token = flags.withToken? token' := by
  have hname : name token = name token' := h.1
  have hargument : argument? token = argument? token' := by
    rw [argument?_eq, argument?_eq, h.2]
  unfold RuleFlags.withToken?
  rw [hname, hargument]

theorem Respelled.unusable?_eq (h : Respelled token token') :
    unusable? token' = (unusable? token).map fun _ => token' := by
  unfold unusable?
  rw [h.withToken?_eq]
  cases ({} : RuleFlags).withToken? token' <;> rfl

end FlagToken

namespace RuleFlags

def withoutInvalid (flags : RuleFlags) : RuleFlags := { flags with invalid := none }

variable {token token' : Text} {tokens tokens' : List Text}

/-! ### Tokens that say nothing -/

theorem ofTokens_of_unusable (h : FlagToken.unusable? token ≠ none) :
    ofTokens [token] = { invalid := some token } := by
  change ({} : RuleFlags).withToken token = _
  unfold FlagToken.unusable? at h
  unfold withToken
  cases hnone : ({} : RuleFlags).withToken? token with
  | none => rfl
  | some flags => simp [hnone] at h

theorem ofTokens_of_unknown (h : FlagToken.flag? token = none) : ofTokens [token] = {} := by
  change ({} : RuleFlags).withToken token = _
  unfold FlagToken.flag? at h
  unfold withToken withToken?
  rw [h]

theorem invalid_ofTokens_singleton (token : Text) :
    (ofTokens [token]).invalid = FlagToken.unusable? token := by
  rw [ofTokens_singleton]

theorem withoutInvalid_withToken (flags : RuleFlags) (token : Text) :
    (flags.withToken token).withoutInvalid =
      bif FlagToken.unusable? token = none then flags.withoutInvalid.withToken token
      else flags.withoutInvalid := by
  rw [withToken_eq_merge, withToken_eq_merge]
  by_cases h : FlagToken.unusable? token = none
  · have hnone := (invalid_ofTokens_singleton token).trans h
    simp [h, withoutInvalid, merge, hnone]
  · simp [h, ofTokens_of_unusable h, withoutInvalid, merge]

theorem ofTokens_filter_usable (tokens : List Text) :
    ofTokens (tokens.filter fun token => FlagToken.unusable? token = none) =
      (ofTokens tokens).withoutInvalid :=
  ofTokens_filter rfl withoutInvalid_withToken tokens

theorem ofTokens_filter_known (tokens : List Text) :
    ofTokens (tokens.filter fun token => FlagToken.flag? token ≠ none) = ofTokens tokens := by
  have htoken : ∀ flags token, id (withToken flags token) =
      bif FlagToken.flag? token ≠ none then (id flags).withToken token else id flags := by
    intro flags token
    by_cases h : FlagToken.flag? token = none
    · simp [h, withToken_eq_merge, ofTokens_of_unknown, merge_empty]
    · simp [h]
  exact ofTokens_filter rfl htoken tokens

/-! ### Tokens in other cases -/

theorem withoutInvalid_ofTokens_of_respelled (h : List.Forall₂ FlagToken.Respelled tokens tokens') :
    (ofTokens tokens').withoutInvalid = (ofTokens tokens).withoutInvalid := by
  induction h with
  | nil => rfl
  | @cons token token' tokens tokens' htoken _ ih =>
      have hmerge : ∀ token tokens, (ofTokens (token :: tokens)).withoutInvalid =
          (ofTokens [token]).withoutInvalid.merge (ofTokens tokens).withoutInvalid := by
        intro token tokens
        rw [← List.singleton_append, ofTokens_append]
        rfl
      have hsame : (ofTokens [token']).withoutInvalid = (ofTokens [token]).withoutInvalid := by
        change (({} : RuleFlags).withToken token').withoutInvalid =
          (({} : RuleFlags).withToken token).withoutInvalid
        unfold withToken
        rw [htoken.withToken?_eq]
        cases ({} : RuleFlags).withToken? token' <;> rfl
      rw [hmerge token', hsame, ih, ← hmerge]

theorem invalid_ofTokens_of_respelled (h : List.Forall₂ FlagToken.Respelled tokens tokens') :
    ∃ i : Nat, (ofTokens tokens).invalid = tokens[i]? ∧ (ofTokens tokens').invalid = tokens'[i]? := by
  simp only [invalid_ofTokens]
  induction h with
  | nil => exact ⟨0, rfl, rfl⟩
  | @cons token token' tokens tokens' htoken _ ih =>
      obtain ⟨i, hi, hi'⟩ := ih
      rw [List.findSome?_cons, List.findSome?_cons, htoken.unusable?_eq]
      cases hunusable : FlagToken.unusable? token with
      | none => exact ⟨i + 1, by simpa using hi, by simpa using hi'⟩
      | some _ =>
          obtain rfl := FlagToken.eq_of_unusable? hunusable
          exact ⟨0, rfl, rfl⟩

end RuleFlags

namespace ConditionFlags

def merge (flags later : ConditionFlags) : ConditionFlags where
  noCase := flags.noCase || later.noCase
  orNext := flags.orNext || later.orNext

theorem withToken_eq_merge (flags : ConditionFlags) (token : Text) :
    flags.withToken token = flags.merge (ofTokens [token]) := by
  change flags.withToken token = flags.merge (({} : ConditionFlags).withToken token)
  unfold withToken
  dsimp only
  split_ifs <;> simp [merge]

theorem ofTokens_append (tokens later : List Text) :
    ofTokens (tokens ++ later) = (ofTokens tokens).merge (ofTokens later) := by
  have hconcat : ∀ tokens token, ofTokens (tokens ++ [token]) =
      (ofTokens tokens).merge (ofTokens [token]) := by
    intro tokens token
    rw [← withToken_eq_merge, ofTokens, List.foldl_append]
    rfl
  induction later using List.reverseRecOn with
  | nil => simp [merge, ofTokens]
  | append_singleton later token ih =>
      rw [← List.append_assoc, hconcat, ih, hconcat]
      simp [merge, Bool.or_assoc]

end ConditionFlags

/-- **Flag lists compose.** A list of tokens says what its two parts say: switches are on if one part
turns them on, values are those of the later part if it has them, lists are put one behind the other,
and the token that cannot be used is the first one. To leave out all tokens that cannot be used takes
back their record and nothing else, and to leave out unknown ones changes nothing. Tokens whose names
are respelled say the same; the record is of the token at the same place, as it is spelled there. -/
theorem RuleFlags.ofTokens_composes :
    (∀ tokens later : List Text,
      ofTokens (tokens ++ later) = (ofTokens tokens).merge (ofTokens later)) ∧
    (∀ tokens : List Text,
      ofTokens (tokens.filter fun token => FlagToken.unusable? token = none) =
        (ofTokens tokens).withoutInvalid) ∧
    (∀ tokens : List Text,
      ofTokens (tokens.filter fun token => FlagToken.flag? token ≠ none) = ofTokens tokens) ∧
    (∀ tokens tokens' : List Text, List.Forall₂ FlagToken.Respelled tokens tokens' →
      (ofTokens tokens').withoutInvalid = (ofTokens tokens).withoutInvalid ∧
        ∃ i : Nat, (ofTokens tokens).invalid = tokens[i]? ∧
          (ofTokens tokens').invalid = tokens'[i]?) ∧
    ∀ tokens later : List Text,
      ConditionFlags.ofTokens (tokens ++ later) =
        (ConditionFlags.ofTokens tokens).merge (ConditionFlags.ofTokens later) :=
  ⟨ofTokens_append, ofTokens_filter_usable, ofTokens_filter_known,
    fun _ _ h => ⟨withoutInvalid_ofTokens_of_respelled h, invalid_ofTokens_of_respelled h⟩,
    ConditionFlags.ofTokens_append⟩

private def spelled : List Text := ["Skip=3".toList, "S=X".toList, "NE".toList, "t=".toList]

private def respelled : List Text := ["sKIP=3".toList, "s=X".toList, "ne".toList, "T=".toList]

/-- Two tokens cannot be used, and the first of them is kept as each list spells it. -/
theorem RuleFlags.ofTokens_composes_of_respelled :
    List.Forall₂ FlagToken.Respelled spelled respelled ∧
      (ofTokens respelled).withoutInvalid = (ofTokens spelled).withoutInvalid ∧
      (ofTokens spelled).invalid = some "S=X".toList ∧
      (ofTokens respelled).invalid = some "s=X".toList ∧
      (ofTokens respelled).skip = some 3 := by
  have hrespelled : List.Forall₂ FlagToken.Respelled spelled respelled := by
    simp only [spelled, respelled, List.forall₂_cons, List.forall₂_nil_left_iff]
    decide
  exact ⟨hrespelled, (ofTokens_composes.2.2.2.1 _ _ hrespelled).1, rfl, rfl, rfl⟩

end Reroute
