import Mathlib.Data.List.DropRight
import Reroute.Cache
import Reroute.Proofs.Settings

/-!
# A cache does not show

Whatever a cache has been asked for, it answers as if every rule text were read anew. It may have a
rule set to hand or not; what it has is the rule set of the text that was the last to be read in good
order, and this is all that has to be known of the past. The digest stands for the text here, so none
of this holds of two texts that have the same one.
-/

namespace Reroute

namespace Cache

inductive Operation where
  | fetch (rules : Text)
  | run (settings : Settings) (facts : Facts)
  | outcome (settings : Settings) (facts : Facts)
  | clear

inductive Answer where
  | ruleSet (result : Except Malformed RuleSet)
  | result (result : Except Failure Outcome)
  | outcome (outcome : Outcome)
  | cleared

def perform (cache : Cache) : Operation → Cache × Answer
  | .fetch rules => (cache.fetch rules).map id .ruleSet
  | .run settings facts => (cache.run settings facts).map id .result
  | .outcome settings facts => (cache.outcome settings facts).map id .outcome
  | .clear => (.empty, .cleared)

/-- One operation after the other, on a cache that is empty at first. -/
def performAll (operations : List Operation) : Cache × List Answer :=
  operations.foldl (fun (cache, answers) operation =>
    let (cache, answer) := cache.perform operation
    (cache, answers ++ [answer])) (.empty, [])

theorem performAll_concat (operations : List Operation) (operation : Operation) :
    performAll (operations ++ [operation]) =
      (((performAll operations).1.perform operation).1,
        (performAll operations).2 ++ [((performAll operations).1.perform operation).2]) :=
  List.foldl_concat _ _ _ _

namespace Operation

def answer : Operation → Answer
  | fetch rules => .ruleSet (RuleSet.ofText rules)
  | run settings facts => .result (settings.runAnew facts)
  | outcome settings facts => .outcome ((settings.runAnew facts).toOption.getD .untouched)
  | clear => .cleared

def text? : Operation → Option Text
  | fetch rules => some rules
  | run settings _ | outcome settings _ => if settings.isActive then some settings.rules else none
  | clear => none

def compiled? (operation : Operation) : Option Text :=
  operation.text?.filter fun rules => (RuleSet.ofText rules).isOk

def isClear : Operation → Bool
  | clear => true
  | _ => false

theorem text?_of_compiled? {operation : Operation} {t : Text}
    (ht : operation.compiled? = some t) : operation.text? = some t := by
  rw [compiled?, Option.filter_eq_some_iff] at ht
  exact ht.1

theorem compiled?_fetch_of_ok {rules : Text} {ruleSet : RuleSet}
    (hread : RuleSet.ofText rules = .ok ruleSet) : (fetch rules).compiled? = some rules := by
  rw [compiled?, text?, Option.filter_some, hread]
  rfl

theorem compiled?_fetch_of_error {rules : Text} {e : Malformed}
    (hread : RuleSet.ofText rules = .error e) : (fetch rules).compiled? = none := by
  rw [compiled?, text?, Option.filter_some, hread]
  rfl

end Operation

/-- The rule text that was the last to be read in good order since the cache was cleared. -/
def lastCompiled (operations : List Operation) : Option Text :=
  ((operations.rtakeWhile fun operation => !operation.isClear).filterMap
    Operation.compiled?).getLast?

theorem lastCompiled_concat (operations : List Operation) (operation : Operation) :
    lastCompiled (operations ++ [operation]) =
      if operation.isClear then none else operation.compiled?.or (lastCompiled operations) := by
  unfold lastCompiled
  cases hclear : operation.isClear with
  | true => rw [List.rtakeWhile_concat_neg _ _ _ (by simp [hclear])]; rfl
  | false =>
      rw [List.rtakeWhile_concat_pos _ _ _ (by simp [hclear]), List.filterMap_append]
      cases hcompiled : operation.compiled? <;> simp [hcompiled]

theorem lastCompiled_mem {operations : List Operation} {t : Text}
    (ht : lastCompiled operations = some t) : t ∈ operations.filterMap Operation.text? := by
  obtain ⟨operation, hmem, hcompiled⟩ := List.mem_filterMap.mp (List.mem_of_getLast? ht)
  have hmem' : operation ∈ operations := (List.rtakeWhile_suffix _ _).mem hmem
  exact List.mem_filterMap.mpr ⟨operation, hmem', Operation.text?_of_compiled? hcompiled⟩

/-! ### One operation -/

/-- What a cache keeps: the rule set of a text, or nothing. -/
inductive Keeps : Cache → Option Text → Prop
  | nothing : Keeps .empty none
  | ruleSet {rules : Text} {ruleSet : RuleSet} (hread : RuleSet.ofText rules = .ok ruleSet) :
      Keeps ⟨some (.ofText rules, ruleSet)⟩ (some rules)

variable {cache : Cache} {last : Option Text} {rules : Text} {settings : Settings} {facts : Facts}

theorem Keeps.digest?_eq (h : cache.Keeps last) : cache.digest? = last.map .ofText := by
  cases h <;> rfl

theorem Keeps.find?_eq (h : cache.Keeps last)
    (hdigest : ∀ t ∈ last, Digest.ofText t = Digest.ofText rules → t = rules) :
    cache.find? rules = none ∨
      ∃ ruleSet, cache.find? rules = some ruleSet ∧ RuleSet.ofText rules = .ok ruleSet ∧
        last = some rules := by
  cases h with
  | nothing => exact .inl rfl
  | @ruleSet t ruleSet hread =>
      -- Texts with one digest are one text here, so a hit gives what reading the text would.
      by_cases hsame : Digest.ofText t = Digest.ofText rules
      · obtain rfl := hdigest t rfl hsame
        exact .inr ⟨ruleSet, if_pos rfl, hread, rfl⟩
      · exact .inl (if_neg hsame)

theorem Keeps.fetch (h : cache.Keeps last)
    (hdigest : ∀ t ∈ last, Digest.ofText t = Digest.ofText rules → t = rules) :
    (cache.fetch rules).2 = RuleSet.ofText rules ∧
      (cache.fetch rules).1.Keeps ((Operation.fetch rules).compiled?.or last) := by
  unfold Cache.fetch
  rcases h.find?_eq hdigest with hmissing | ⟨ruleSet, hfound, hread, rfl⟩
  · rw [hmissing]
    cases hread : RuleSet.ofText rules with
    | ok ruleSet =>
        rw [Operation.compiled?_fetch_of_ok hread]
        exact ⟨rfl, .ruleSet hread⟩
    | error e =>
        rw [Operation.compiled?_fetch_of_error hread]
        exact ⟨rfl, h⟩
  · rw [hfound, hread, Operation.compiled?_fetch_of_ok hread]
    exact ⟨rfl, h⟩

theorem fetch_of_malformed (hcompiled : (Operation.fetch rules).compiled? = none) (cache : Cache) :
    (cache.fetch rules).1 = cache := by
  unfold fetch
  cases cache.find? rules with
  | some ruleSet => rfl
  | none =>
      cases hread : RuleSet.ofText rules with
      | ok ruleSet => simp [Operation.compiled?_fetch_of_ok hread] at hcompiled
      | error e => rfl

theorem Operation.run_eq_fetch (hactive : settings.isActive = true) (facts : Facts) :
    (Operation.run settings facts).text? = (Operation.fetch settings.rules).text? ∧
      (Operation.run settings facts).compiled? = (Operation.fetch settings.rules).compiled? := by
  have htext : (Operation.run settings facts).text? = (Operation.fetch settings.rules).text? :=
    if_pos hactive
  exact ⟨htext, by rw [compiled?, htext, compiled?]⟩

theorem Operation.run_eq_none (hactive : settings.isActive = false) (facts : Facts) :
    (Operation.run settings facts).compiled? = none := by
  rw [compiled?, text?, if_neg (by simp [hactive])]
  rfl

theorem run_of_isActive (hactive : settings.isActive = true) (cache : Cache) (facts : Facts) :
    (cache.run settings facts).1 = (cache.fetch settings.rules).1 ∧
      (cache.run settings facts).2 =
        (cache.fetch settings.rules).2.mapError .malformed >>= fun ruleSet =>
          ruleSet.run facts settings.options := by
  unfold run
  rw [if_pos hactive]
  exact ⟨rfl, rfl⟩

theorem run_of_not_isActive (hactive : settings.isActive = false) (cache : Cache) (facts : Facts) :
    cache.run settings facts = (cache, .ok .untouched) :=
  if_neg (by simp [hactive])

theorem Keeps.run (h : cache.Keeps last)
    (hdigest : ∀ t ∈ last, ∀ u ∈ (Operation.run settings facts).text?,
      Digest.ofText t = Digest.ofText u → t = u) :
    (cache.run settings facts).2 = settings.runAnew facts ∧
      (cache.run settings facts).1.Keeps ((Operation.run settings facts).compiled?.or last) := by
  rw [← settings.run_eq_runAnew]
  cases hactive : settings.isActive with
  | false =>
      rw [run_of_not_isActive hactive, Operation.run_eq_none hactive, Settings.run,
        if_neg (by simp [hactive])]
      exact ⟨rfl, h⟩
  | true =>
      obtain ⟨htext, hcompiled⟩ := Operation.run_eq_fetch hactive facts
      obtain ⟨hanswer, hkeeps⟩ := h.fetch fun t ht => hdigest t ht _ (by rw [htext]; rfl)
      rw [(run_of_isActive hactive cache facts).1, (run_of_isActive hactive cache facts).2, hanswer,
        hcompiled, Settings.run, if_pos hactive]
      exact ⟨rfl, hkeeps⟩

theorem outcome_eq_run (cache : Cache) (settings : Settings) (facts : Facts) :
    cache.outcome settings facts =
      ((cache.run settings facts).1, (cache.run settings facts).2.toOption.getD .untouched) := by
  unfold outcome
  obtain ⟨cache', result⟩ := cache.run settings facts
  cases result <;> rfl

/-- **One operation** has its answer from the cache as without one, and leaves the rule set of its
text behind, if it needed one and there is one. -/
theorem Keeps.perform {operation : Operation} (h : cache.Keeps last)
    (hdigest : ∀ t ∈ last, ∀ u ∈ operation.text?, Digest.ofText t = Digest.ofText u → t = u) :
    (cache.perform operation).2 = operation.answer ∧
      (cache.perform operation).1.Keeps
        (if operation.isClear then none else operation.compiled?.or last) := by
  cases operation with
  | fetch rules =>
      obtain ⟨hanswer, hkeeps⟩ := h.fetch fun t ht => hdigest t ht rules rfl
      exact ⟨congrArg Answer.ruleSet hanswer, hkeeps⟩
  | run settings facts =>
      obtain ⟨hanswer, hkeeps⟩ := h.run hdigest
      exact ⟨congrArg Answer.result hanswer, hkeeps⟩
  | outcome settings facts =>
      have hdigest' : ∀ t ∈ last, ∀ u ∈ (Operation.run settings facts).text?,
          Digest.ofText t = Digest.ofText u → t = u := hdigest
      obtain ⟨hanswer, hkeeps⟩ := h.run hdigest'
      rw [Cache.perform, outcome_eq_run, hanswer]
      exact ⟨rfl, hkeeps⟩
  | clear => exact ⟨rfl, .nothing⟩

theorem perform_of_compiled?_eq_none {operation : Operation} (hclear : operation.isClear = false)
    (hcompiled : operation.compiled? = none) (cache : Cache) :
    (cache.perform operation).1 = cache := by
  have hrun : ∀ settings facts, (Operation.run settings facts).compiled? = none →
      (cache.run settings facts).1 = cache := by
    intro settings facts hcompiled
    cases hactive : settings.isActive with
    | false => rw [run_of_not_isActive hactive]
    | true =>
        rw [(Operation.run_eq_fetch hactive facts).2] at hcompiled
        rw [(run_of_isActive hactive cache facts).1, fetch_of_malformed hcompiled]
  cases operation with
  | fetch rules => exact fetch_of_malformed hcompiled cache
  | run settings facts => exact hrun settings facts hcompiled
  | outcome settings facts =>
      rw [perform, outcome_eq_run]
      exact hrun settings facts hcompiled
  | clear => cases hclear

/-! ### All operations -/

theorem performAll_keeps (operations : List Operation)
    (hdigests : ∀ t ∈ operations.filterMap Operation.text?,
      ∀ u ∈ operations.filterMap Operation.text?, Digest.ofText t = Digest.ofText u → t = u) :
    (performAll operations).2 = operations.map Operation.answer ∧
      (performAll operations).1.Keeps (lastCompiled operations) := by
  induction operations using List.reverseRecOn with
  | nil => exact ⟨rfl, .nothing⟩
  | append_singleton operations operation ih =>
      rw [List.filterMap_append] at hdigests
      obtain ⟨hanswers, hkeeps⟩ := ih fun t ht u hu =>
        hdigests t (List.mem_append_left _ ht) u (List.mem_append_left _ hu)
      have hdigest : ∀ t ∈ lastCompiled operations, ∀ u ∈ operation.text?,
          Digest.ofText t = Digest.ofText u → t = u := by
        intro t ht u hu
        refine hdigests t (List.mem_append_left _ (lastCompiled_mem ht)) u ?_
        refine List.mem_append_right _ (List.mem_filterMap.mpr ⟨operation, ?_, hu⟩)
        exact List.mem_singleton_self operation
      obtain ⟨hanswer, hkeeps'⟩ := hkeeps.perform hdigest
      rw [performAll_concat, lastCompiled_concat, List.map_append, hanswers, hanswer]
      exact ⟨rfl, hkeeps'⟩

/-- **A cache does not show.** If no two of the rule texts that it looks up have the same digest, it
answers every operation as if there were no cache, and settings that are switched on do what their
rules say, blank ones included. The digest that it has in the end is that of the text that was the
last to be read in good order since it was cleared; an operation that reads none leaves it as it is. -/
theorem performAll_eq_answers (operations : List Operation)
    (hdigests : ∀ t ∈ operations.filterMap Operation.text?,
      ∀ u ∈ operations.filterMap Operation.text?, Digest.ofText t = Digest.ofText u → t = u) :
    (performAll operations).2 = operations.map Operation.answer ∧
      (∀ (settings : Settings) (facts : Facts), settings.run facts = settings.runAnew facts ∧
        settings.outcome facts = (settings.runAnew facts).toOption.getD .untouched) ∧
      (performAll operations).1.digest? = (lastCompiled operations).map .ofText ∧
      ∀ (cache : Cache) (operation : Operation), operation.isClear = false →
        operation.compiled? = none → (cache.perform operation).1 = cache := by
  obtain ⟨hanswers, hkeeps⟩ := performAll_keeps operations hdigests
  refine ⟨hanswers, fun settings facts => ?_, hkeeps.digest?_eq, fun cache operation => ?_⟩
  · exact ⟨settings.run_eq_runAnew facts, settings.outcome_eq_runAnew facts⟩
  · exact fun hclear hcompiled => perform_of_compiled?_eq_none hclear hcompiled cache

private def cachedRules : Text := "RewriteRule a /b".toList

private def malformedRules : Text := "RewriteRule a".toList

private def cachedRequest : Facts where
  url := "/a".toList
  now := ⟨2000, 1, 1, 0, 0, 0⟩

private def cacheOperations : List Operation := [
  .run (.ofRules " \n".toList) cachedRequest,
  .fetch cachedRules,
  .fetch malformedRules,
  .clear,
  .outcome (.ofRules cachedRules) cachedRequest,
  .outcome (.ofRules malformedRules) cachedRequest,
  .run { rules := malformedRules } cachedRequest]

/-- The rules are read again after they have been cleared, and then malformed ones do not replace
them. -/
theorem performAll_eq_answers_of_malformed :
    (performAll cacheOperations).2 = cacheOperations.map Operation.answer ∧
      (performAll cacheOperations).1.digest? = some (.ofText cachedRules) := by
  have htexts : cacheOperations.filterMap Operation.text? =
      [cachedRules, malformedRules, cachedRules, malformedRules] := by decide
  have hne : Digest.ofText cachedRules ≠ Digest.ofText malformedRules := by decide +kernel
  have hdigests : ∀ t ∈ cacheOperations.filterMap Operation.text?,
      ∀ u ∈ cacheOperations.filterMap Operation.text?,
        Digest.ofText t = Digest.ofText u → t = u := by
    rw [htexts]
    simp [hne, hne.symm]
  have hlast : lastCompiled cacheOperations = some cachedRules := by decide
  obtain ⟨hanswers, -, hdigest, -⟩ := performAll_eq_answers cacheOperations hdigests
  exact ⟨hanswers, by rw [hdigest, hlast]; rfl⟩

end Cache

end Reroute
