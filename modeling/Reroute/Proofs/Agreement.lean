import Mathlib.Data.List.Forall2
import Reroute.Pass.Visit
import Reroute.Proofs.References

/-!
# Environments that agree

Two environments agree on some variables if these have the same texts in both, wherever the URLs of
the passes cannot be told apart. Whatever a rule does to variables, it does to both environments,
and they agree as before.
-/

namespace Reroute.Environment

theorem read_insert (env : Environment) (name other url : Text) (value : Value) :
    (env.insert name value).read other url =
      if other = name then value.text url else env.read other url := by
  unfold read
  rw [value?_insert]
  by_cases hname : other = name <;> simp [hname]

theorem read_erase (env : Environment) (name other url : Text) :
    (env.erase name).read other url =
      if other = name then .error (.undefinedVariable other) else env.read other url := by
  unfold read
  rw [value?_erase]
  by_cases hname : other = name <;> simp [hname]

/-- Two environments agree on some variables at URLs that look the same. -/
def AgreeOn (names : Text → Prop) (view : Text → Text) (env env' : Environment) : Prop :=
  ∀ name, names name → ∀ u v, view u = view v → env.read name u = env'.read name v

namespace AgreeOn

variable {names : Text → Prop} {view : Text → Text} {env env' : Environment}

theorem insert (h : env.AgreeOn names view env') (name : Text) {value : Value}
    (hvalue : ∀ u v, value.text u = value.text v) :
    (env.insert name value).AgreeOn names view (env'.insert name value) := by
  intro other hother u v huv
  rw [read_insert, read_insert, h other hother u v huv, hvalue u v]

theorem erase (h : env.AgreeOn names view env') (name : Text) :
    (env.erase name).AgreeOn names view (env'.erase name) := by
  intro other hother u v huv
  rw [read_erase, read_erase, h other hother u v huv]

theorem changes (h : env.AgreeOn names view env') (condition : Option Groups) (rule : Groups)
    (changes : List VariableFlag) :
    (changes.foldl (VariableFlag.apply condition rule) env).AgreeOn names view
      (changes.foldl (VariableFlag.apply condition rule) env') := by
  induction changes generalizing env env' with
  | nil => exact h
  | cons change rest ih =>
      cases change with
      | assign name value => exact ih (h.insert name fun _ _ => rfl)
      | remove name => exact ih (h.erase name)

/-- A text that refers to agreed variables only is expanded alike. -/
theorem expand_eq (h : env.AgreeOn names view env') {u v text : Text} (huv : view u = view v)
    (hnames : ∀ name, variableReference name <:+: text → names name) :
    env.expand u text = env'.expand v text :=
  Piece.expand_congr fun name hname =>
    h name (hnames name (variableReference_isInfix hname)) u v huv

theorem of_entries {entries entries' : List (Text × Value)}
    (h : List.Forall₂ (fun e e' => e.1 = e'.1 ∧
      (names e.1 → ∀ u v, view u = view v → e.2.text u = e'.2.text v)) entries entries') :
    AgreeOn names view ⟨entries⟩ ⟨entries'⟩ := by
  intro name hname u v huv
  induction h with
  | nil => rfl
  | @cons e e' rest rest' he _ ih =>
      obtain ⟨key, value⟩ := e
      obtain ⟨_, value'⟩ := e'
      obtain ⟨rfl, hvalue⟩ := he
      unfold read value? at ih ⊢
      simp only [List.lookup_cons]
      by_cases hkey : name = key
      · subst hkey
        simpa using hvalue hname u v huv
      · rw [show (name == key) = false by simpa using hkey]
        exact ih

theorem insert_extra (h : env.AgreeOn names view env') (extra : List (Text × Text)) :
    (extra.foldl (fun env (name, text) => env.insert name (.fixed text)) env).AgreeOn names view
      (extra.foldl (fun env (name, text) => env.insert name (.fixed text)) env') := by
  induction extra generalizing env env' with
  | nil => exact h
  | cons entry rest ih => exact ih (h.insert entry.1 fun _ _ => rfl)

theorem of_builtIn {facts facts' : Facts}
    (h : List.Forall₂ (fun e e' => e.1 = e'.1 ∧
      (names e.1.toList → ∀ u v, view u = view v → e.2.text u = e'.2.text v))
      (builtIn facts) (builtIn facts')) (hextra : facts.extra = facts'.extra) :
    (ofFacts facts).AgreeOn names view (ofFacts facts') := by
  unfold ofFacts
  rw [← hextra]
  refine insert_extra (of_entries ?_) facts.extra
  refine List.forall₂_map_left_iff.mpr (List.forall₂_map_right_iff.mpr ?_)
  exact h.imp fun e e' he => ⟨congrArg String.toList he.1, he.2⟩

end AgreeOn

end Reroute.Environment
