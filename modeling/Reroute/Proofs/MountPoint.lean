import Reroute.Pass.Visit
import Reroute.Proofs.Pass.QueryString

/-!
# Paths and the mount point of the application

The path that rules see is that of the URL without the path that the application is mounted under.
It is cut off wherever the URL begins with it, also in the middle of a name: an application under
`/blog` sees `/ger/a` in place of `/blogger/a`, a path that is not below it. The paths that have nothing
to do with the mount point reach the rules as they are exactly if the mount point is not written at
their front.
-/

namespace Reroute

open Pass

namespace Url

variable {mount url path rest : Text}

/-- Whether a path is that of a mount point or leads on from it behind a slash. -/
def IsUnder (mount path : Text) : Prop := path = mount ∨ mount ++ ['/'] <+: path

instance (mount path : Text) : Decidable (IsUnder mount path) :=
  inferInstanceAs (Decidable (_ ∨ _))

def rooted : Text → Text
  | '/' :: rest => '/' :: rest
  | rest => '/' :: rest

theorem pathBelow_eq_rooted (url mount : Text) :
    pathBelow url mount = rooted (Url.path ((Text.dropStart? mount url).getD url)) := rfl

theorem rooted_of_head?_ne (h : rest.head? ≠ some '/') : rooted rest = '/' :: rest := by
  unfold rooted
  split
  · simp at h
  · rfl

theorem length_le_rooted (path : Text) : path.length ≤ (rooted path).length := by
  unfold rooted
  split <;> simp

theorem pathBelow_nil (url : Text) : pathBelow url [] = rooted (Url.path url) := rfl

theorem pathBelow_append (hmark : '?' ∉ mount) (hpath : Url.path url = mount ++ rest) :
    pathBelow url mount = rooted rest := by
  rw [pathBelow_eq_rooted, path_dropStart hmark, hpath]
  simp [Text.dropStart?]

theorem pathBelow_of_not_isPrefix (hmark : '?' ∉ mount) (hpath : ¬ mount <+: Url.path url) :
    pathBelow url mount = pathBelow url [] := by
  rw [pathBelow_eq_rooted, path_dropStart hmark, pathBelow_nil]
  simp [Text.dropStart?, hpath]

/-- A slash takes the place of a mount point that is cut off within a name, and it is shorter. -/
theorem length_rooted_lt (hmount : mount ≠ []) (hslash : mount.getLast? ≠ some '/')
    (hrest : rest.head? ≠ some '/') : (rooted rest).length < (rooted (mount ++ rest)).length := by
  rw [rooted_of_head?_ne hrest]
  match mount with
  | [c] =>
      have hhead : ([c] ++ rest).head? ≠ some '/' := by simpa using hslash
      rw [rooted_of_head?_ne hhead]
      simp
  | c :: d :: mount =>
      have hle := length_le_rooted (c :: d :: mount ++ rest)
      simp only [List.length_append, List.length_cons] at hle ⊢
      omega

theorem head?_ne_of_not_isUnder (hunder : ¬ IsUnder mount (mount ++ rest)) :
    rest.head? ≠ some '/' := by
  intro hhead
  obtain ⟨rest, rfl⟩ := List.head?_eq_some_iff.mp hhead
  exact hunder (.inr ⟨rest, by simp⟩)

/-- **A mount point is cut off wherever it is written at the front of a path.** A path that is not
under the mount point reaches the rules as it is exactly if the mount point is not written at its
front, and then every rule is visited as if there were no mount point. A path that begins with the
mount point within a name loses it as well, and a slash takes its place. -/
theorem own_path_iff_not_isPrefix (hmount : mount ≠ []) (hslash : mount.getLast? ≠ some '/')
    (hmark : '?' ∉ mount) (hunder : ¬ IsUnder mount (Url.path url)) :
    (pathBelow url mount = pathBelow url [] ↔ ¬ mount <+: Url.path url) ∧
    (∀ rest, Url.path url = mount ++ rest → pathBelow url mount = '/' :: rest) ∧
    (¬ mount <+: Url.path url → ∀ (r : Rule) (state : State), state.url = url →
      r.visit mount state = r.visit [] state) := by
  refine ⟨⟨?_, pathBelow_of_not_isPrefix hmark⟩, ?_, ?_⟩
  · rintro hsame ⟨rest, hpath⟩
    rw [← hpath] at hunder
    have hshorter := length_rooted_lt hmount hslash (head?_ne_of_not_isUnder hunder)
    rw [pathBelow_append hmark hpath.symm, pathBelow_nil, ← hpath] at hsame
    rw [hsame] at hshorter
    exact absurd hshorter (lt_irrefl _)
  · intro rest hpath
    rw [hpath] at hunder
    rw [pathBelow_append hmark hpath, rooted_of_head?_ne (head?_ne_of_not_isUnder hunder)]
  · rintro hpath r state rfl
    rw [Rule.visit, Rule.visit, Rule.attempt, Rule.attempt, pathBelow_of_not_isPrefix hmark hpath]

/-- An application under `/blog` is not asked for `/blogger/a`, and its rules see `/ger/a`. -/
theorem own_path_iff_not_isPrefix_of_blogger :
    ¬ IsUnder "/blog".toList (Url.path "/blogger/a?/blog/".toList) ∧
    pathBelow "/blogger/a?/blog/".toList "/blog".toList = "/ger/a".toList ∧
    pathBelow "/blogger/a?/blog/".toList "/blog".toList ≠
      pathBelow "/blogger/a?/blog/".toList [] := by
  have hunder : ¬ IsUnder "/blog".toList (Url.path "/blogger/a?/blog/".toList) := by decide
  have hmount : "/blog".toList ≠ [] ∧ "/blog".toList.getLast? ≠ some '/' ∧ '?' ∉ "/blog".toList := by
    decide
  obtain ⟨hown, hcut, -⟩ := own_path_iff_not_isPrefix hmount.1 hmount.2.1 hmount.2.2 hunder
  exact ⟨hunder, hcut "ger/a".toList (by decide), fun h => hown.mp h (by decide)⟩

/-- Not every path that is not under a mount point reaches the rules as it is. -/
theorem mount_point_cut_off_within_name :
    ¬ ∀ mount url : Text, mount ≠ [] → mount.getLast? ≠ some '/' → '?' ∉ mount →
      ¬ IsUnder mount (Url.path url) → pathBelow url mount = pathBelow url [] := by
  intro hown
  have hsame := hown "/blog".toList "/blogger/a".toList (by decide) (by decide) (by decide)
    (by decide)
  exact absurd hsame (by decide)

end Url

end Reroute
