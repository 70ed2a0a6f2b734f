import Reroute.Environment

/-!
# The variables that a request begins with

A further variable of a request counts before a built-in one of its name, and no two built-in ones
share a name. All of them have a text at every URL, and only that of the query string depends on it.
-/

namespace Reroute.Environment

variable {facts : Facts} {name text : Text}

theorem isSome_value? (env : Environment) (name : Text) :
    (env.value? name).isSome = env.contains name := by
  unfold value? contains
  induction env.entries with
  | nil => rfl
  | cons entry rest ih =>
      rw [List.lookup_cons, List.any_cons]
      by_cases hname : name = entry.1
      · simp [hname]
      · have hkey : (name == entry.1) = false := by simpa using hname
        have hentry : (entry.1 == name) = false := by simpa using Ne.symm hname
        rw [hkey, hentry, ih, Bool.false_or]

/-! ### Built-in variables -/

theorem builtIn_nodup (facts : Facts) : ((builtIn facts).map Prod.fst).Nodup := by
  -- The names are the same for every request.
  have hnames : ((builtIn { url := [], now := ⟨2000, 1, 1, 0, 0, 0⟩ }).map Prod.fst).Nodup := by
    decide
  exact hnames

/-- The value of a built-in variable is fixed, unless it is the query string. -/
theorem fixed_of_mem_builtIn {key : String} {value : Value} (hmem : (key, value) ∈ builtIn facts)
    (hkey : key ≠ "QUERY_STRING") : ∃ text, value = .fixed text := by
  simp only [builtIn, List.cons_append, List.nil_append, List.map_cons, List.map_nil,
    List.mem_cons, Prod.mk.injEq, List.not_mem_nil, or_false] at hmem
  grind

theorem currentQuery_of_mem_builtIn {value : Value}
    (hmem : ("QUERY_STRING", value) ∈ builtIn facts) : value = .currentQuery := by
  simpa [builtIn] using hmem

theorem lookup_builtIn {key : String} {value : Value} (hmem : (key, value) ∈ builtIn facts) :
    ((builtIn facts).map fun (name, value) => (name.toList, value)).lookup key.toList =
      some value := by
  obtain ⟨before, after, hsplit⟩ := List.append_of_mem hmem
  rw [List.lookup_eq_some_iff]
  refine ⟨before.map _, after.map _, by rw [hsplit, List.map_append]; rfl, ?_⟩
  intro entry hentry
  obtain ⟨⟨other, otherValue⟩, hother, rfl⟩ := List.mem_map.mp hentry
  have hnodup := builtIn_nodup facts
  rw [hsplit, List.map_append, List.nodup_append] at hnodup
  have hne : other ≠ key :=
    hnodup.2.2 other (List.mem_map_of_mem hother) key (by simp)
  simpa [String.toList_inj] using hne.symm

/-! ### All variables -/

theorem value?_insert_extra (extra : List (Text × Text)) (env : Environment) (name : Text) :
    (extra.foldl (fun env (name, text) => env.insert name (.fixed text)) env).value? name =
      ((extra.reverse.lookup name).map Value.fixed).or (env.value? name) := by
  induction extra generalizing env with
  | nil => rfl
  | cons entry rest ih =>
      obtain ⟨key, text⟩ := entry
      rw [List.foldl_cons, ih, value?_insert, List.reverse_cons, List.lookup_append]
      cases rest.reverse.lookup name with
      | some text => rfl
      | none =>
          by_cases hname : name = key
          · simp [hname]
          · have hkey : (name == key) = false := by simpa using hname
            simp [List.lookup_cons, hname, hkey]

theorem value?_ofFacts_of_extra (hextra : facts.extra.reverse.lookup name = some text) :
    (ofFacts facts).value? name = some (.fixed text) := by
  rw [ofFacts, value?_insert_extra, hextra]
  rfl

theorem value?_ofFacts_of_builtIn {key : String} {value : Value}
    (hextra : facts.extra.reverse.lookup key.toList = none)
    (hmem : (key, value) ∈ builtIn facts) : (ofFacts facts).value? key.toList = some value := by
  rw [ofFacts, value?_insert_extra, hextra]
  exact lookup_builtIn hmem

theorem value?_ofFacts_of_unknown (hextra : facts.extra.reverse.lookup name = none)
    (hname : ∀ entry ∈ builtIn facts, entry.1.toList ≠ name) :
    (ofFacts facts).value? name = none := by
  rw [ofFacts, value?_insert_extra, hextra]
  refine List.lookup_eq_none_iff.mpr fun entry hentry => ?_
  obtain ⟨other, hother, rfl⟩ := List.mem_map.mp hentry
  simpa using (hname other hother).symm

theorem read_of_value? {env : Environment} {value : Value} (h : env.value? name = some value)
    (url : Text) : env.read name url = value.text url := by
  rw [read, h]

/-- Every variable of a request has a text, wherever it is read. -/
theorem read_ofFacts_of_contains (hname : (ofFacts facts).contains name = true) (url : Text) :
    ∃ text, (ofFacts facts).read name url = .ok text := by
  cases hextra : facts.extra.reverse.lookup name with
  | some text => exact ⟨text, read_of_value? (value?_ofFacts_of_extra hextra) url⟩
  | none =>
      by_cases hbuiltIn : ∃ entry ∈ builtIn facts, entry.1.toList = name
      · obtain ⟨⟨key, value⟩, hmem, rfl⟩ := hbuiltIn
        rw [read_of_value? (value?_ofFacts_of_builtIn hextra hmem)]
        by_cases hkey : key = "QUERY_STRING"
        · subst hkey
          exact ⟨Url.query url, by rw [currentQuery_of_mem_builtIn hmem]; rfl⟩
        · obtain ⟨text, rfl⟩ := fixed_of_mem_builtIn hmem hkey
          exact ⟨text, rfl⟩
      · have hunknown : ∀ entry ∈ builtIn facts, entry.1.toList ≠ name :=
          fun entry hentry heq => hbuiltIn ⟨entry, hentry, heq⟩
        rw [← isSome_value?, value?_ofFacts_of_unknown hextra hunknown] at hname
        cases hname

end Reroute.Environment
