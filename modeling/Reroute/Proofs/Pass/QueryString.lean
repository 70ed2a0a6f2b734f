import Mathlib.Data.List.TakeWhile
import Reroute.Proofs.Pass.Dependence

/-!
# The query string in a pass

A URL keeps its path and its query string in one text, and every rule that fires takes them apart
and puts them together again. The path of the URL that comes out is never that of the query string
that went in: a pass whose directives do not mention the query string goes the same way with any.
-/

namespace Reroute

open Pass

namespace Url

theorem path_carryQuery (url query : Text) (append : Bool) :
    path (carryQuery url query append) = path url := by
  unfold carryQuery path
  by_cases hurl : '?' ∈ url
  · have happend : Text.before '?' (url ++ '&' :: query) = Text.before '?' url := by
      rw [Text.before_append, if_pos hurl]
    split_ifs <;> simp [happend]
  · have hbefore : Text.before '?' url = url := by
      refine List.takeWhile_eq_self_iff.mpr fun c hc => ?_
      have hmark : c ≠ '?' := fun h => hurl (h ▸ hc)
      simpa using hmark
    have happend : Text.before '?' (url ++ '?' :: query) = url := by
      rw [Text.before_append, if_neg hurl]
      simp [Text.before]
    split_ifs
    · rfl
    · rw [happend, hbefore]

theorem path_dropStart {mount : Text} (hmount : '?' ∉ mount) (url : Text) :
    path ((Text.dropStart? mount url).getD url) =
      (Text.dropStart? mount (path url)).getD (path url) := by
  unfold Text.dropStart?
  by_cases hurl : mount <+: url
  · obtain ⟨rest, rfl⟩ := hurl
    have hpath : path (mount ++ rest) = mount ++ path rest := by
      rw [path, Text.before_append, if_neg hmount, path]
    simp [hpath]
  · have hpath : ¬ mount <+: path url := fun h => hurl (h.trans (List.takeWhile_prefix _))
    simp [hurl, hpath]

theorem isView_path {mount : Text} (hmount : '?' ∉ mount) : IsView path mount where
  pathBelow h := by rw [pathBelow, pathBelow, path_dropStart hmount, path_dropStart hmount, h]
  carryQuery _ url append := by rw [path_carryQuery, path_carryQuery]

end Url

/-- Only two variables of a request depend on its URL. -/
theorem Environment.ofFacts_agreeOn {view : Text → Text} (facts : Facts) (url : Text) :
    (ofFacts facts).AgreeOn
      (fun name => name ≠ "QUERY_STRING".toList ∧ name ≠ "REQUEST_URI".toList) view
      (ofFacts { facts with url }) := by
  refine AgreeOn.of_builtIn ?_ rfl
  simp [builtIn, Value.text]

/-- **The query string does not steer a pass.** If no directive mentions `QUERY_STRING` or
`REQUEST_URI`, requests that differ only behind the first question mark of their URLs have results
that differ only there: the same action with the same path, or a failure of the same kind in the
same place. On the way the passes visit the same directives, with the same effects. -/
theorem ofDirectives_path_eq (directives : List Directive) (facts : Facts) (url : Text)
    (options : Options)
    (hmentions : ∀ d ∈ directives,
      ¬ d.Mentions "QUERY_STRING".toList ∧ ¬ d.Mentions "REQUEST_URI".toList)
    (hmount : '?' ∉ facts.applicationPath) (hurl : Url.path facts.url = Url.path url) :
    seenThrough Url.path (Report.ofDirectives directives facts options) =
      seenThrough Url.path (Report.ofDirectives directives { facts with url } options) ∧
    ∀ visits c, Reaches directives facts visits c →
      ∃ visits' c', Reaches directives { facts with url } visits' c' ∧
        visits'.map Visit.directive = visits.map Visit.directive ∧
        Url.path c'.state.url = Url.path c.state.url ∧
        (Report.ofConfig c').mapUrl Url.path = (Report.ofConfig c).mapUrl Url.path := by
  have hview := Url.isView_path hmount
  have hnames : ∀ d ∈ directives, ∀ name, d.Mentions name →
      name ≠ "QUERY_STRING".toList ∧ name ≠ "REQUEST_URI".toList := by
    intro d hd name hname
    obtain ⟨hquery, huri⟩ := hmentions d hd
    exact ⟨fun h => hquery (h ▸ hname), fun h => huri (h ▸ hname)⟩
  have hstart : (Config.start directives facts).SameUnder directives _ Url.path
      (.start directives { facts with url }) :=
    start_sameUnder hurl (Environment.ofFacts_agreeOn facts url)
  refine ⟨run_sameUnder hview hnames hstart _, ?_⟩
  intro visits c hvisits
  obtain ⟨visits', c', hvisits', hsame, hdirectives⟩ := hvisits.exists_alike
    (fun _ _ h => step_alike hview hnames h) (fun _ _ h => h.rest) hstart
  exact ⟨visits', c', hvisits', hdirectives, hsame.state.url.symm, hsame.report_eq.symm⟩

/-- A redirection keeps a query string and appends another, under a mount point that is cut off. -/
private def mountedRule : List Directive := [
  .rule {
    line := 1
    text := []
    pattern := Pattern.ofText? "^/old/(.*)$".toList false
    negated := false
    substitution := .target "/new/$1?%\x7bHTTP_HOST\x7d".toList
    flags := { appendQuery := true, redirect := some .permanent } }]

private def mountedRequest : Facts where
  url := "/blog/old/a?%\x7bREQUEST_URI\x7d?".toList
  applicationPath := "/blog".toList
  now := ⟨2000, 1, 1, 0, 0, 0⟩

theorem ofDirectives_path_eq_of_mounted :
    (∀ d ∈ mountedRule, ¬ d.Mentions "QUERY_STRING".toList ∧ ¬ d.Mentions "REQUEST_URI".toList) ∧
    '?' ∉ mountedRequest.applicationPath ∧
    Url.path mountedRequest.url = Url.path "/blog/old/a".toList ∧
    seenThrough Url.path (Report.ofDirectives mountedRule mountedRequest {}) =
      seenThrough Url.path (Report.ofDirectives mountedRule
        { mountedRequest with url := "/blog/old/a".toList } {}) := by
  have hmentions : ∀ d ∈ mountedRule,
      ¬ d.Mentions "QUERY_STRING".toList ∧ ¬ d.Mentions "REQUEST_URI".toList := by decide +kernel
  have hmount : '?' ∉ mountedRequest.applicationPath := by decide
  have hurl : Url.path mountedRequest.url = Url.path "/blog/old/a".toList := by decide
  have hsame := ofDirectives_path_eq mountedRule mountedRequest "/blog/old/a".toList {}
    hmentions hmount hurl
  exact ⟨hmentions, hmount, hurl, hsame.1⟩

end Reroute
