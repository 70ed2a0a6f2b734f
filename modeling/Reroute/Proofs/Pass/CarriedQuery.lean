import Reroute.Proofs.Pass.LastFiring
import Reroute.Proofs.Pass.QueryString
import Reroute.Proofs.Rules.OneChar

/-!
# The query string from one rule to the next

A rule that makes a new URL hands on the query string of the URL before it: as it is, if the new URL
has none of its own, or behind its own, if that is asked for. So the query string of the request is
still there at the end of a pass in which no rule brought one along, and in a pass in which every rule
asked to append it, the last query string ends with it. What carries both through a pass is that each
firing starts from the URL that the one before it has made.
-/

namespace Reroute

open Pass

namespace Url

theorem query_of_not_mem {url : Text} (hurl : '?' ∉ url) : query url = [] := by
  have happend := Text.after_append '?' url []
  rw [if_neg hurl, List.append_nil] at happend
  exact happend

theorem query_carryQuery (url before : Text) (append : Bool) :
    query (carryQuery url before append) =
      if '?' ∈ url then
        if append = true ∧ before ≠ [] then query url ++ '&' :: before else query url
      else before := by
  unfold carryQuery
  by_cases hbefore : before = []
  · rw [if_pos hbefore]
    by_cases hurl : '?' ∈ url
    · simp [hurl, hbefore]
    · rw [if_neg hurl, hbefore, query_of_not_mem hurl]
  · rw [if_neg hbefore]
    by_cases hurl : '?' ∈ url
    · have happend : query (url ++ '&' :: before) = query url ++ '&' :: before := by
        rw [query, Text.after_append, if_pos hurl, query]
      cases append <;> simp [hurl, hbefore, happend]
    · rw [if_neg hurl, if_neg hurl, query, Text.after_append, if_neg hurl]
      simp [Text.after]

theorem isSuffix_query_carryQuery (url before : Text) :
    before <:+ query (carryQuery url before true) := by
  rw [query_carryQuery]
  split_ifs with hurl happend
  · exact (List.suffix_cons '&' before).trans (List.suffix_append _ _)
  · have hnone : before = [] := by simpa using happend
    rw [hnone]
    exact List.nil_suffix
  · exact List.suffix_refl before

end Url

namespace Pass

variable {directives : List Directive} {facts : Facts} {path url : Text} {c c' : Config}
  {visits : List Visit} {f : Firing}

/-! ### One firing -/

/-- What a firing makes of its target, before the query string. A rule that keeps the path has no
target. -/
def Firing.expanded? (f : Firing) : Option Text :=
  match f.rule.substitution with
  | .keep => none
  | .target target =>
    (f.state.environment.expandAll f.state.url f.state.groups f.groups target).toOption

theorem Firing.Makes.exists_expanded (hmakes : f.Makes path url)
    (htarget : f.rule.substitution ≠ .keep) :
    ∃ text, f.expanded? = some text ∧
      url = Url.carryQuery text (Url.query f.state.url) f.rule.flags.appendQuery := by
  cases hsubstitution : f.rule.substitution with
  | keep => exact absurd hsubstitution htarget
  | target target =>
      obtain ⟨text, hexpand, hurl⟩ := hmakes.leaves.target target hsubstitution
      exact ⟨text, by simp [expanded?, hsubstitution, hexpand, Except.toOption], hurl⟩

theorem Firing.ne_keep_of_expanded {text : Text} (htext : f.expanded? = some text) :
    f.rule.substitution ≠ .keep := by
  intro hkeep
  simp [expanded?, hkeep] at htext

theorem Firing.Leaves.eq_of_url? {action : Action} {u : Text} (h : f.Leaves path url action)
    (hu : action.url? = some u) : u = url := by
  cases hforbidden : f.rule.flags.forbidden with
  | true => simp [h.forbidden hforbidden, Action.url?] at hu
  | false =>
      cases hgone : f.rule.flags.gone with
      | true => simp [h.gone hforbidden hgone, Action.url?] at hu
      | false =>
          cases hredirect : f.rule.flags.redirect with
          | none => simpa [h.transfer hforbidden hgone hredirect, Action.url?] using hu.symm
          | some kind =>
              simpa [h.redirect hforbidden hgone kind hredirect, Action.url?] using hu.symm

/-! ### Whole passes -/

theorem History.query_eq (hvisits : History directives path c visits c')
    (hplain : ∀ f ∈ firings path visits, ∃ text, f.expanded? = some text ∧ '?' ∉ text) :
    Url.query c'.state.url = Url.query c.state.url := by
  revert hplain
  refine hvisits.firing_invariant
    (P := fun fs state => (∀ f ∈ fs, ∃ text, f.expanded? = some text ∧ '?' ∉ text) →
      Url.query state.url = Url.query c.state.url) ?_ ?_ ?_
  · intro _
    rfl
  · intro fs s t ih hsame hplain
    rw [hsame.url]
    exact ih hplain
  · intro fs f url ih hmakes hplain
    rw [List.forall_mem_append, List.forall_mem_singleton] at hplain
    obtain ⟨hbefore, text, htext, hmark⟩ := hplain
    obtain ⟨text', htext', hurl⟩ := hmakes.exists_expanded (f.ne_keep_of_expanded htext)
    obtain rfl : text = text' := by simpa [htext] using htext'
    have hafter : (f.after url).1.url = url := Rule.apply_url
    rw [hafter, hurl, Url.query_carryQuery, if_neg hmark]
    exact ih hbefore

theorem History.query_isSuffix (hvisits : History directives path c visits c')
    (happend : ∀ f ∈ firings path visits,
      f.rule.substitution ≠ .keep ∧ f.rule.flags.appendQuery = true) :
    Url.query c.state.url <:+ Url.query c'.state.url := by
  revert happend
  refine hvisits.firing_invariant
    (P := fun fs state => (∀ f ∈ fs,
        f.rule.substitution ≠ .keep ∧ f.rule.flags.appendQuery = true) →
      Url.query c.state.url <:+ Url.query state.url) ?_ ?_ ?_
  · intro _
    exact List.suffix_refl _
  · intro fs s t ih hsame happend
    rw [hsame.url]
    exact ih happend
  · intro fs f url ih hmakes happend
    rw [List.forall_mem_append, List.forall_mem_singleton] at happend
    obtain ⟨hbefore, htarget, hflag⟩ := happend
    obtain ⟨text, -, hurl⟩ := hmakes.exists_expanded htarget
    have hafter : (f.after url).1.url = url := Rule.apply_url
    rw [hafter, hurl, hflag]
    exact (ih hbefore).trans (Url.isSuffix_query_carryQuery text _)

/-- **The query string of a request is carried through a pass.** Where a pass leads to a URL, that
URL has the query string of the request if no rule that fired brought one along, and one that ends
with it if every rule that fired asked to append it. A rule that keeps the path hands nothing on.
The last part is what becomes of a query string at one firing. -/
theorem query_carried_over {options : Options} {report : Report}
    (hreport : Report.ofDirectives directives facts options = .ok report)
    (hurl : report.outcome.action.url? = some url) :
    (∃ visits c, Reaches directives facts visits c ∧ c.rest = [] ∧ report = .ofConfig c ∧
      firings facts.applicationPath visits ≠ [] ∧ c.state.url = url ∧
      ((∀ f ∈ firings facts.applicationPath visits,
        ∃ text, f.expanded? = some text ∧ '?' ∉ text) →
          Url.query url = Url.query facts.url) ∧
      ((∀ f ∈ firings facts.applicationPath visits,
        f.rule.substitution ≠ .keep ∧ f.rule.flags.appendQuery = true) →
          Url.query facts.url <:+ Url.query url)) ∧
    ∀ (u before : Text) (append : Bool),
      Url.path (Url.carryQuery u before append) = Url.path u ∧
      Url.query (Url.carryQuery u before append) =
        if '?' ∈ u then
          if append = true ∧ before ≠ [] then Url.query u ++ '&' :: before else Url.query u
        else before := by
  refine ⟨?_, fun u before append =>
    ⟨Url.path_carryQuery u before append, Url.query_carryQuery u before append⟩⟩
  obtain ⟨visits, c, hvisits, hrest, rfl⟩ := Report.reaches_of_ofDirectives hreport
  have hfirings : firings facts.applicationPath visits ≠ [] := by
    intro hnone
    have hserve : (Report.ofConfig c).outcome = .untouched := hvisits.outcome_of_no_firing hnone
    simp [hserve, Outcome.untouched, Action.url?] at hurl
  obtain ⟨f, hlast⟩ := Option.ne_none_iff_exists'.mp (mt List.getLast?_eq_none_iff.mp hfirings)
  obtain rfl : url = c.state.url := (hvisits.leaves_of_last hlast).eq_of_url? hurl
  exact ⟨visits, c, hvisits, hrest, rfl, hfirings, rfl, hvisits.query_eq, hvisits.query_isSuffix⟩

private def carryingRules : List Directive :=
  [.rule (.onChar 1 'a' "/b?x" ["QSA", "N"]), .rule (.onChar 2 'b' "/c" ["QSA", "R"])]

private def carryingRequest : Facts where
  url := "/a?y?z".toList
  now := ⟨2000, 1, 1, 0, 0, 0⟩

/-- The first rule puts its own query string before that of the request and begins the pass anew. The
second has none and takes over both. -/
theorem query_carried_over_of_appended :
    ∃ report url, Report.ofDirectives carryingRules carryingRequest {} = .ok report ∧
      report.outcome.action.url? = some url ∧ report.restarts = 1 ∧ url = "/c?x&y?z".toList ∧
      Url.query carryingRequest.url <:+ Url.query url := by
  have hreport : Report.ofDirectives carryingRules carryingRequest {} = .ok {
      outcome := {
        action := .redirect "/c?x&y?z".toList false
        cookies := []
        contentType := none }
      fired := [1, 2]
      processed := 3
      restarts := 1 } := by
    rfl
  obtain ⟨visits, c, hvisits, -, hconfig, -, -, -, happended⟩ :=
    (query_carried_over hreport rfl).1
  refine ⟨_, _, hreport, rfl, rfl, rfl, happended fun f hf => ?_⟩
  -- Both rules have a target and ask to append.
  obtain ⟨v, hv, hfiring⟩ := List.mem_filterMap.mp hf
  have hrule := hvisits.directive_mem (List.suffix_refl _) v hv
  rw [directive_of_firing? hfiring] at hrule
  have hall : ∀ d ∈ carryingRules, ∀ r, d = .rule r →
      r.substitution ≠ .keep ∧ r.flags.appendQuery = true := by
    simp only [carryingRules, List.forall_mem_cons, Directive.rule.injEq, forall_eq']
    exact ⟨⟨by simp [Rule.onChar, Substitution.ofText], by decide⟩,
      ⟨by simp [Rule.onChar, Substitution.ofText], by decide⟩, by simp⟩
  exact hall _ hrule f.rule rfl

end Pass

end Reroute
