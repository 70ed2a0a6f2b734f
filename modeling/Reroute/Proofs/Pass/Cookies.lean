import Reroute.Proofs.Pass.LastFiring
import Reroute.Proofs.Pass.Walks

/-!
# Cookies and the content type

A rule that fires adds what it asks for to what the rules before it have asked for: a cookie in the
place of one of the same name, or behind all others, and a content type in the place of any other.
A rule that refuses the request asks for nothing, and with it the pass is over. So the cookies of an
outcome and its content type can be read off the list of the rules that fired.
-/

namespace Reroute

/-! ### Setting cookies -/

namespace CookieFlag

variable {specs : List CookieFlag} {cookies : List Cookie}

/-- Cookies are those that flags ask for: one for each name, in the order in which the names come up
first, and as the last flag of the name has it. -/
structure Fulfilled (specs : List CookieFlag) (cookies : List Cookie) : Prop where
  nodup : (cookies.map (·.name)).Nodup
  mem_iff : ∀ name, name ∈ cookies.map (·.name) ↔ name ∈ specs.map (·.name)
  ordered : (cookies.map (·.name)).Pairwise fun first second =>
    (specs.map (·.name)).idxOf first < (specs.map (·.name)).idxOf second
  last : ∀ c ∈ cookies, ∃ spec,
    (specs.filter (·.name = c.name)).getLast? = some spec ∧ c = spec.cookie

theorem map_name_set (cookies : List Cookie) (spec : CookieFlag) :
    (set cookies spec).map (·.name) =
      if spec.name ∈ cookies.map (·.name) then cookies.map (·.name)
      else cookies.map (·.name) ++ [spec.name] := by
  induction cookies with
  | nil => rfl
  | cons c rest ih =>
      rw [set]
      by_cases hname : c.name = spec.name
      · simp [hname, cookie]
      · rw [if_neg hname, List.map_cons, ih]
        by_cases hrest : spec.name ∈ rest.map (·.name) <;> simp [hrest, Ne.symm hname]

theorem mem_set (hnodup : (cookies.map (·.name)).Nodup) (spec : CookieFlag) (c : Cookie) :
    c ∈ set cookies spec ↔ c = spec.cookie ∨ c ∈ cookies ∧ c.name ≠ spec.name := by
  induction cookies with
  | nil => simp [set]
  | cons first rest ih =>
      rw [List.map_cons, List.nodup_cons] at hnodup
      rw [set]
      by_cases hname : first.name = spec.name
      · -- The names differ, so that no other cookie is in the way.
        have hrest : ∀ c ∈ rest, c.name ≠ spec.name := by
          intro c hc hsame
          exact hnodup.1 (List.mem_map.mpr ⟨c, hc, hsame.trans hname.symm⟩)
        rw [if_pos hname, List.mem_cons, List.mem_cons]
        constructor
        · rintro (hset | hc)
          · exact .inl hset
          · exact .inr ⟨.inr hc, hrest c hc⟩
        · rintro (hset | ⟨rfl | hc, hne⟩)
          · exact .inl hset
          · exact absurd hname hne
          · exact .inr hc
      · rw [if_neg hname, List.mem_cons, ih hnodup.2, List.mem_cons]
        constructor
        · rintro (rfl | hset | ⟨hc, hne⟩)
          · exact .inr ⟨.inl rfl, hname⟩
          · exact .inl hset
          · exact .inr ⟨.inr hc, hne⟩
        · rintro (hset | ⟨hfirst | hc, hne⟩)
          · exact .inr (.inl hset)
          · exact .inl hfirst
          · exact .inr (.inr ⟨hc, hne⟩)

theorem Fulfilled.nil : Fulfilled [] [] where
  nodup := .nil
  mem_iff := by simp
  ordered := .nil
  last := by simp

theorem Fulfilled.concat (h : Fulfilled specs cookies) (spec : CookieFlag) :
    Fulfilled (specs ++ [spec]) (set cookies spec) := by
  have hindex : ∀ name ∈ cookies.map (·.name),
      ((specs ++ [spec]).map (·.name)).idxOf name = (specs.map (·.name)).idxOf name := by
    intro name hname
    rw [List.map_append, List.idxOf_append_of_mem ((h.mem_iff name).mp hname)]
  have hordered : (cookies.map (·.name)).Pairwise fun first second =>
      ((specs ++ [spec]).map (·.name)).idxOf first <
        ((specs ++ [spec]).map (·.name)).idxOf second := by
    refine h.ordered.imp_of_mem fun hfirst hsecond hlt => ?_
    rwa [hindex _ hfirst, hindex _ hsecond]
  have hlast : ∀ c ∈ set cookies spec, ∃ last,
      ((specs ++ [spec]).filter (·.name = c.name)).getLast? = some last ∧ c = last.cookie := by
    intro c hc
    rw [List.filter_append]
    rcases (mem_set h.nodup spec c).mp hc with rfl | ⟨hc, hne⟩
    · exact ⟨spec, by simp [cookie], rfl⟩
    · obtain ⟨last, hlast, rfl⟩ := h.last c hc
      exact ⟨last, by simpa [Ne.symm hne] using hlast, rfl⟩
  by_cases hname : spec.name ∈ cookies.map (·.name)
  · have hnames : (set cookies spec).map (·.name) = cookies.map (·.name) := by
      rw [map_name_set, if_pos hname]
    refine ⟨hnames ▸ h.nodup, fun name => ?_, hnames ▸ hordered, hlast⟩
    rw [hnames, h.mem_iff, List.map_append, List.mem_append, List.map_singleton,
      List.mem_singleton]
    refine ⟨.inl, ?_⟩
    rintro (hmem | rfl)
    · exact hmem
    · exact (h.mem_iff _).mp hname
  · have hnames : (set cookies spec).map (·.name) = cookies.map (·.name) ++ [spec.name] := by
      rw [map_name_set, if_neg hname]
    have hnew : spec.name ∉ specs.map (·.name) := fun hmem => hname ((h.mem_iff _).mpr hmem)
    refine ⟨?_, fun name => ?_, ?_, hlast⟩
    · rw [hnames, ← List.concat_eq_append]
      exact h.nodup.concat hname
    · rw [hnames, List.mem_append, h.mem_iff, List.map_append, List.mem_append, List.map_singleton]
    · rw [hnames, List.pairwise_append]
      refine ⟨hordered, List.pairwise_singleton _ _, fun first hfirst second hsecond => ?_⟩
      obtain rfl := List.mem_singleton.mp hsecond
      have hold := List.idxOf_lt_length_iff.mpr ((h.mem_iff first).mp hfirst)
      rw [hindex first hfirst, List.map_append, List.idxOf_append_of_notMem hnew]
      omega

end CookieFlag

namespace Pass

variable {directives : List Directive} {facts : Facts} {path : Text} {c c' : Config}
  {visits : List Visit} {fs : List Firing}

/-! ### Rules that refuse the request -/

theorem History.stops_eq_false (hvisits : History directives path c visits c')
    (hrest : c'.rest ≠ []) : ∀ f ∈ firings path visits, f.rule.flags.stops = false := by
  induction hvisits with
  | nil => simp [firings]
  | @snoc visits d ahead c' c'' _ hahead hstep ih =>
      rw [firings_concat, List.forall_mem_append]
      refine ⟨ih (by simp [hahead]), ?_⟩
      obtain ⟨state, hvisit, rfl⟩ | ⟨rule, state, course, rfl, hvisit, rfl⟩ :=
        step_cases hahead hstep
      · simp [firing?_of_visit_none hvisit]
      · obtain ⟨groups, hfiring⟩ := exists_firing_rule hvisit
        have hcourse : course =
            if rule.flags.stops then .stop else if rule.flags.next then .restart else .next :=
          Rule.course_of_visit hvisit
        rw [hfiring, Option.toList_some, List.forall_mem_singleton]
        cases hstops : rule.flags.stops with
        | false => rfl
        | true =>
            rw [if_pos hstops] at hcourse
            subst hcourse
            exact absurd rfl hrest

end Pass

end Reroute
