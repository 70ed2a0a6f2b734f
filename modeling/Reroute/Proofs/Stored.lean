import Mathlib.Data.List.Forall2
import Mathlib.Data.List.Nodup
import Mathlib.Data.Option.Defs
import Reroute.Stored.Outcome
import Reroute.Stored.Settings

/-!
# Stored data

What is stored of an outcome or of settings is read back as it was, and it may be written in more than
one way: the fields of a record may come in any order, further fields may stand beside them, and
settings may leave fields out.
-/

namespace Reroute

namespace Stored

/-- The fields that a reader asks a record for, and how far their values may differ. -/
abbrev Schema := List (String × (Stored → Stored → Prop))

def SameField (schema : Schema) (f f' : Text × Stored) : Prop :=
  f'.1 = f.1 ∧ ∀ entry ∈ schema, entry.1.toList = f.1 → entry.2 f.2 f'.2

theorem SameField.refl {schema : Schema} (hsame : ∀ entry ∈ schema, ∀ s, entry.2 s s)
    (f : Text × Stored) : SameField schema f f :=
  ⟨rfl, fun entry hentry _ => hsame entry hentry f.2⟩

/-- A record with its fields in another order and with further ones beside them that nobody asks
for. -/
inductive Rearranged (schema : Schema) : Stored → Stored → Prop
  | refl (s : Stored) : Rearranged schema s s
  | record {fields kept unknown fields' : List (Text × Stored)}
      (hnames : (fields.map Prod.fst).Nodup) (hkept : List.Forall₂ (SameField schema) fields kept)
      (hunknown : ∀ f ∈ unknown, ∀ entry ∈ schema, entry.1.toList ≠ f.1)
      (hperm : fields'.Perm (kept ++ unknown)) :
      Rearranged schema (.record fields) (.record fields')

variable {schema : Schema} {fields kept unknown fields' : List (Text × Stored)} {name : Text}
  {s s' : Stored}

/-! ### Looking for a field -/

theorem lookup_eq_some_iff_mem
    (hone : ∀ value value', (name, value) ∈ fields → (name, value') ∈ fields → value = value')
    {value : Stored} : fields.lookup name = some value ↔ (name, value) ∈ fields := by
  have hmem : ∀ {value}, fields.lookup name = some value → (name, value) ∈ fields := by
    intro value hvalue
    obtain ⟨before, after, rfl, -⟩ := List.lookup_eq_some_iff.mp hvalue
    simp
  refine ⟨hmem, fun hvalue => ?_⟩
  cases hfound : fields.lookup name with
  | none => simpa using List.lookup_eq_none_iff.mp hfound _ hvalue
  | some other => rw [hone other value (hmem hfound) hvalue]

theorem lookup_eq_of_perm (hnames : (kept.map Prod.fst).Nodup) (hunknown : ∀ f ∈ unknown, name ≠ f.1)
    (hperm : fields'.Perm (kept ++ unknown)) : fields'.lookup name = kept.lookup name := by
  have hmem : ∀ value, (name, value) ∈ fields' ↔ (name, value) ∈ kept := by
    intro value
    rw [hperm.mem_iff, List.mem_append, or_iff_left]
    intro hvalue
    exact hunknown _ hvalue rfl
  have hone : ∀ value value', (name, value) ∈ kept → (name, value') ∈ kept → value = value' := by
    intro value value' hvalue hvalue'
    exact congrArg Prod.snd (List.inj_on_of_nodup_map hnames hvalue hvalue' rfl)
  ext value
  rw [lookup_eq_some_iff_mem hone, lookup_eq_some_iff_mem, hmem]
  intro value value' hvalue hvalue'
  exact hone _ _ ((hmem _).mp hvalue) ((hmem _).mp hvalue')

theorem map_fst_of_sameField (hkept : List.Forall₂ (SameField schema) fields kept) :
    kept.map Prod.fst = fields.map Prod.fst := by
  induction hkept with
  | nil => rfl
  | cons hfield _ ih => rw [List.map_cons, List.map_cons, ih, hfield.1]

theorem lookup_of_sameField {entry : String × (Stored → Stored → Prop)} (hentry : entry ∈ schema)
    (hkept : List.Forall₂ (SameField schema) fields kept) :
    Option.Rel entry.2 (fields.lookup entry.1.toList) (kept.lookup entry.1.toList) := by
  induction hkept with
  | nil => exact .none
  | @cons f f' _ _ hfield _ ih =>
      obtain ⟨name, value⟩ := f
      obtain ⟨name', value'⟩ := f'
      obtain ⟨rfl, hvalues⟩ := hfield
      rw [List.lookup_cons, List.lookup_cons]
      by_cases hname : entry.1.toList = name'
      · simpa [hname] using Option.Rel.some (hvalues entry hentry hname)
      · have hdiffers : (entry.1.toList == name') = false := by simpa using hname
        simpa [hdiffers] using ih

def Agree (schema : Schema) (field field' : String → Option Stored) : Prop :=
  ∀ entry ∈ schema, Option.Rel entry.2 (field entry.1) (field' entry.1)

/-- A reader of records that asks for the fields of a schema does not see how a record is
arranged. -/
theorem Rearranged.bind_record?_eq {α : Type} {read : (String → Option Stored) → Option α}
    (h : Rearranged schema s s')
    (hread : ∀ field field', Agree schema field field' → read field' = read field) :
    s'.record?.bind read = s.record?.bind read := by
  cases h with
  | refl => rfl
  | @record fields kept unknown fields' hnames hkept hunknown hperm =>
      refine hread _ _ fun entry hentry => ?_
      rw [← map_fst_of_sameField hkept] at hnames
      rw [lookup_eq_of_perm hnames (fun f hf => hunknown f hf entry hentry) hperm]
      exact lookup_of_sameField hentry hkept

theorem Rearranged.bind_fields?_eq {α : Type} {read : (String → Option Stored) → Option α}
    (names : List String) (allowFewer : Bool) (h : Rearranged schema s s')
    (hread : ∀ field field', Agree schema field field' → read field' = read field) :
    (s'.fields? names allowFewer).bind read = (s.fields? names allowFewer).bind read := by
  cases h with
  | refl => rfl
  | record hnames hkept hunknown hperm =>
      exact bind_record?_eq (.record hnames hkept hunknown hperm) hread

/-! ### Values of fields -/

theorem Agree.congr {β : Type} {field field' : String → Option Stored} {name : String}
    {same : Stored → Stored → Prop} (read read' : Option Stored → β)
    (h : Agree schema field field') (hname : (name, same) ∈ schema)
    (hnone : read' none = read none)
    (hsome : ∀ s s', same s s' → read' (some s') = read (some s)) :
    read' (field' name) = read (field name) := by
  have hvalue : Option.Rel same (field name) (field' name) := h _ hname
  generalize field name = value, field' name = value' at hvalue
  cases hvalue with
  | none => exact hnone
  | some hsame => exact hsome _ _ hsame

theorem Agree.eq {field field' : String → Option Stored} {name : String}
    (h : Agree schema field field') (hname : (name, Eq) ∈ schema) : field' name = field name := by
  refine h.congr id id hname rfl ?_
  rintro s _ rfl
  rfl

theorem Agree.bind_eq {α : Type} {field field' : String → Option Stored} {name : String}
    {same : Stored → Stored → Prop} {read read' : Stored → Option α}
    (h : Agree schema field field') (hname : (name, same) ∈ schema)
    (hread : ∀ s s', same s s' → read' s' = read s) :
    (field' name >>= read') = (field name >>= read) :=
  h.congr (· >>= read) (· >>= read') hname rfl hread

theorem Agree.orDefault_eq {α : Type} {field field' : String → Option Stored} {name : String}
    {same : Stored → Stored → Prop} {read : Stored → Option α} (default : α)
    (h : Agree schema field field') (hname : (name, same) ∈ schema)
    (hread : ∀ s s', same s s' → read s' = read s) :
    orDefault read default (field' name) = orDefault read default (field name) :=
  h.congr (orDefault read default) (orDefault read default) hname rfl hread

inductive SameItems (same : Stored → Stored → Prop) : Stored → Stored → Prop
  | refl (s : Stored) : SameItems same s s
  | list {items items' : List Stored} :
      List.Forall₂ same items items' → SameItems same (.list items) (.list items')

theorem SameItems.mapM_eq {α : Type} {same : Stored → Stored → Prop} {read : Stored → Option α}
    {items items' : List Stored} (hitems : List.Forall₂ same items items')
    (hread : ∀ s s', same s s' → read s' = read s) : items'.mapM read = items.mapM read := by
  induction hitems with
  | nil => rfl
  | cons hitem _ ih => rw [List.mapM_cons, List.mapM_cons, hread _ _ hitem, ih]

theorem SameItems.bind_eq {α β : Type} {same : Stored → Stored → Prop} {read : Stored → Option α}
    {next : List α → Option β} (h : SameItems same s s')
    (hread : ∀ s s', same s s' → read s' = read s) :
    (s'.list? >>= fun items => items.mapM read >>= next) =
      (s.list? >>= fun items => items.mapM read >>= next) := by
  cases h with
  | refl => rfl
  | list hitems =>
      change (List.mapM read _ >>= next) = (List.mapM read _ >>= next)
      rw [mapM_eq hitems hread]

/-! ### Fields that are left out -/

def without (names : List String) : Stored → Stored
  | .record fields => .record (fields.filter fun f => f.1 ∉ names.map String.toList)
  | s => s

def update (name : String) (change : Stored → Stored) : Stored → Stored
  | .record fields =>
    .record (fields.map fun f => if f.1 = name.toList then (f.1, change f.2) else f)
  | s => s

theorem lookup_filter (keep : Text → Bool) (fields : List (Text × Stored)) (name : Text) :
    (fields.filter fun f => keep f.1).lookup name =
      if keep name = true then fields.lookup name else none := by
  induction fields with
  | nil => simp
  | cons f rest ih =>
      obtain ⟨other, value⟩ := f
      rw [List.lookup_cons, List.filter_cons]
      by_cases hother : name = other
      · subst hother
        by_cases hkeep : keep name = true
        · simp [hkeep]
        · simpa [hkeep] using ih
      · have hdiffers : (name == other) = false := by simpa using hother
        rw [hdiffers, ← ih]
        split
        · rw [List.lookup_cons, hdiffers]
        · rfl

theorem fields?_without (fields : List (Text × Stored)) (names known : List String)
    (allowFewer : Bool) :
    ((record fields).without names).fields? known allowFewer =
      some fun name => if name ∈ names then none else fields.lookup name.toList := by
  refine congrArg some (funext fun name => ?_)
  have hmem : name.toList ∈ names.map String.toList ↔ name ∈ names := by
    simp [String.toList_inj]
  rw [lookup_filter fun name => name ∉ names.map String.toList]
  simp only [decide_eq_true_eq, hmem, ite_not]

theorem orDefault_ite {α : Type} {read : Stored → Option α} {default a : α} {p : Prop} [Decidable p]
    (hread : read s = some a) :
    orDefault read default (if p then none else some s) = some (if p then default else a) := by
  split
  · rfl
  · exact hread

end Stored

/-! ### Actions and outcomes -/

namespace Action

/-- What stands under the tags that have a record under them. -/
def bodies : List (String × Stored.Schema) := [
  ("Redirect", [("url", Eq), ("permanent", Eq)]), ("Transfer", [("url", Eq)])]

/-- An action whose record is arranged in another way. The record that holds the tag has no other
field. -/
inductive Rearranged : Stored → Stored → Prop
  | refl (s : Stored) : Rearranged s s
  | tagged {tag : String} {schema : Stored.Schema} {body body' : Stored}
      (htag : (tag, schema) ∈ bodies) (hbody : Stored.Rearranged schema body body') :
      Rearranged (.record [(tag.toList, body)]) (.record [(tag.toList, body')])

theorem ofStored?_toStored (action : Action) : ofStored? action.toStored = some action := by
  cases action <;> rfl

theorem redirectOfStored?_eq {body body' : Stored}
    (h : Stored.Rearranged [("url", Eq), ("permanent", Eq)] body body') :
    redirectOfStored? body' = redirectOfStored? body := by
  refine h.bind_record?_eq fun field field' hfield => ?_
  have hurl : field' "url" = field "url" := hfield.eq (by simp)
  have hpermanent : field' "permanent" = field "permanent" := hfield.eq (by simp)
  rw [hurl, hpermanent]

theorem transferOfStored?_eq {body body' : Stored}
    (h : Stored.Rearranged [("url", Eq)] body body') :
    transferOfStored? body' = transferOfStored? body := by
  refine h.bind_record?_eq fun field field' hfield => ?_
  have hurl : field' "url" = field "url" := hfield.eq (by simp)
  rw [hurl]

theorem ofStored?_eq_of_rearranged {s s' : Stored} (h : Rearranged s s') :
    ofStored? s' = ofStored? s := by
  cases h with
  | refl => rfl
  | tagged htag hbody =>
      simp only [bodies, List.mem_cons, Prod.mk.injEq, List.not_mem_nil, or_false] at htag
      rcases htag with ⟨rfl, rfl⟩ | ⟨rfl, rfl⟩
      · exact redirectOfStored?_eq hbody
      · exact transferOfStored?_eq hbody

end Action

namespace Cookie

def Rearranged : Stored → Stored → Prop :=
  Stored.Rearranged [("name", Eq), ("value", Eq), ("domain", Eq), ("path", Eq)]

theorem ofStored?_toStored (cookie : Cookie) : ofStored? cookie.toStored = some cookie := by
  obtain ⟨name, value, domain, path⟩ := cookie
  cases path <;> rfl

theorem ofStored?_eq_of_rearranged {s s' : Stored} (h : Rearranged s s') :
    ofStored? s' = ofStored? s := by
  refine Stored.Rearranged.bind_fields?_eq _ _ h fun field field' hfield => ?_
  have hname : field' "name" = field "name" := hfield.eq (by simp)
  have hvalue : field' "value" = field "value" := hfield.eq (by simp)
  have hdomain : field' "domain" = field "domain" := hfield.eq (by simp)
  have hpath : field' "path" = field "path" := hfield.eq (by simp)
  rw [hname, hvalue, hdomain, hpath]

end Cookie

namespace Outcome

def schema : Stored.Schema := [
  ("action", Action.Rearranged), ("cookies", Stored.SameItems Cookie.Rearranged),
  ("content_type", Eq)]

def Rearranged : Stored → Stored → Prop := Stored.Rearranged schema

theorem ofStored?_toStored (outcome : Outcome) : ofStored? outcome.toStored = some outcome := by
  obtain ⟨action, cookies, contentType⟩ := outcome
  have hcookies : (cookies.map Cookie.toStored).mapM Cookie.ofStored? = some cookies := by
    induction cookies with
    | nil => rfl
    | cons cookie rest ih => simp [List.mapM_cons, Cookie.ofStored?_toStored, ih]
  have hcontent : Stored.optionalText? (some (Stored.ofText? contentType)) = some contentType := by
    cases contentType <;> rfl
  change (do
    let action ← Action.ofStored? action.toStored
    let cookies ← (cookies.map Cookie.toStored).mapM Cookie.ofStored?
    let contentType ← Stored.optionalText? (some (Stored.ofText? contentType))
    return { action, cookies, contentType : Outcome }) = _
  rw [Action.ofStored?_toStored, hcookies, hcontent]
  rfl

theorem ofStored?_eq_of_rearranged {s s' : Stored} (h : Rearranged s s') :
    ofStored? s' = ofStored? s := by
  refine Stored.Rearranged.bind_fields?_eq _ _ h fun field field' hfield => ?_
  have hcontent : field' "content_type" = field "content_type" := hfield.eq (by simp [schema])
  rw [hcontent]
  have haction : ("action", Action.Rearranged) ∈ schema := by simp [schema]
  have hcookies : ("cookies", Stored.SameItems Cookie.Rearranged) ∈ schema := by simp [schema]
  refine hfield.bind_eq haction fun s s' haction => ?_
  rw [Action.ofStored?_eq_of_rearranged haction]
  refine bind_congr fun action => ?_
  refine hfield.bind_eq hcookies fun s s' hcookies => ?_
  exact hcookies.bind_eq fun _ _ => Cookie.ofStored?_eq_of_rearranged

end Outcome

/-! ### Settings -/

namespace Options

def Rearranged : Stored → Stored → Prop := Stored.Rearranged [("max_passes", Eq)]

theorem ofStored?_eq_of_rearranged {s s' : Stored} (h : Rearranged s s') :
    ofStored? s' = ofStored? s := by
  refine Stored.Rearranged.bind_fields?_eq _ _ h fun field field' hfield => ?_
  have hpasses : field' "max_passes" = field "max_passes" := hfield.eq (by simp)
  rw [hpasses]

def withDefaults (names : List String) (options : Options) : Options where
  maxPasses := if "max_passes" ∈ names then ({} : Options).maxPasses else options.maxPasses

theorem ofStored?_without {options : Options} (hbound : options.maxPasses < Count.bound)
    (names : List String) :
    ofStored? (options.toStored.without names) = some (options.withDefaults names) := by
  have hcount : Stored.count? (.whole options.maxPasses) = some options.maxPasses := if_pos hbound
  rw [toStored, Stored.ofFields, ofStored?, Stored.fields?_without]
  change (do
    let maxPasses ← Stored.orDefault Stored.count? _
      (if "max_passes" ∈ names then none else some (.whole options.maxPasses))
    return { maxPasses : Options }) = _
  rw [Stored.orDefault_ite hcount]
  rfl

end Options

namespace Settings

def schema : Stored.Schema := [("enabled", Eq), ("rules", Eq), ("options", Options.Rearranged)]

def Rearranged : Stored → Stored → Prop := Stored.Rearranged schema

theorem ofStored?_eq_of_rearranged {s s' : Stored} (h : Rearranged s s') :
    ofStored? s' = ofStored? s := by
  refine Stored.Rearranged.bind_fields?_eq _ _ h fun field field' hfield => ?_
  have henabled : field' "enabled" = field "enabled" := hfield.eq (by simp [schema])
  have hrules : field' "rules" = field "rules" := hfield.eq (by simp [schema])
  have hmem : ("options", Options.Rearranged) ∈ schema := by simp [schema]
  have hoptions := fun default =>
    hfield.orDefault_eq default hmem fun _ _ => Options.ofStored?_eq_of_rearranged
  simp only [henabled, hrules, hoptions]

def withDefaults (names optionNames : List String) (settings : Settings) : Settings where
  enabled := if "enabled" ∈ names then ({} : Settings).enabled else settings.enabled
  rules := if "rules" ∈ names then ({} : Settings).rules else settings.rules
  options :=
    if "options" ∈ names then ({} : Settings).options
    else settings.options.withDefaults optionNames

/-- What is stored of settings, less some fields of theirs and of their options. -/
def storedWithout (names optionNames : List String) (settings : Settings) : Stored :=
  (settings.toStored.update "options" (Stored.without optionNames)).without names

theorem ofStored?_storedWithout {settings : Settings}
    (hbound : settings.options.maxPasses < Count.bound) (names optionNames : List String) :
    ofStored? (settings.storedWithout names optionNames) =
      some (settings.withDefaults names optionNames) := by
  have hoptions := Options.ofStored?_without hbound optionNames
  have henabled : Stored.bool? (.bool settings.enabled) = some settings.enabled := rfl
  have hrules : Stored.text? (.text settings.rules) = some settings.rules := rfl
  have hrecord : settings.toStored.update "options" (Stored.without optionNames) = .record [
      ("enabled".toList, .bool settings.enabled), ("rules".toList, .text settings.rules),
      ("options".toList, settings.options.toStored.without optionNames)] := rfl
  rw [storedWithout, hrecord, ofStored?, Stored.fields?_without]
  change (do
    let enabled ← Stored.orDefault Stored.bool? _
      (if "enabled" ∈ names then none else some (.bool settings.enabled))
    let rules ← Stored.orDefault Stored.text? _
      (if "rules" ∈ names then none else some (.text settings.rules))
    let options ← Stored.orDefault Options.ofStored? _
      (if "options" ∈ names then none else some (settings.options.toStored.without optionNames))
    return { enabled, rules, options : Settings }) = _
  rw [Stored.orDefault_ite henabled, Stored.orDefault_ite hrules, Stored.orDefault_ite hoptions]
  rfl

end Settings

namespace Stored

/-- **What is stored is read back.** An outcome is read back from what is stored of it, and so are
settings whose bound is a count; a field of settings or options that is left out is read as its
default, and all others are read as they are. How records are arranged makes no difference: not for
these, and not for data of which nothing can be read. -/
theorem read_back (outcome : Outcome) (settings : Settings)
    (hbound : settings.options.maxPasses < Count.bound) :
    Outcome.ofStored? outcome.toStored = some outcome ∧
    Settings.ofStored? settings.toStored = some settings ∧
    (∀ s, Outcome.Rearranged outcome.toStored s → Outcome.ofStored? s = some outcome) ∧
    (∀ names optionNames s, Settings.Rearranged (settings.storedWithout names optionNames) s →
      Settings.ofStored? s = some (settings.withDefaults names optionNames)) ∧
    (∀ s s', Outcome.Rearranged s s' → Outcome.ofStored? s' = Outcome.ofStored? s) ∧
    ∀ s s', Settings.Rearranged s s' → Settings.ofStored? s' = Settings.ofStored? s := by
  refine ⟨outcome.ofStored?_toStored, ?_, ?_, ?_, fun _ _ => Outcome.ofStored?_eq_of_rearranged,
    fun _ _ => Settings.ofStored?_eq_of_rearranged⟩
  · exact Settings.ofStored?_storedWithout hbound [] []
  · intro s hs
    rw [Outcome.ofStored?_eq_of_rearranged hs, Outcome.ofStored?_toStored]
  · intro names optionNames s hs
    rw [Settings.ofStored?_eq_of_rearranged hs, Settings.ofStored?_storedWithout hbound]

private def idleSettings : Settings where
  enabled := true
  rules := "RewriteRule a b".toList
  options := { maxPasses := 0 }

private def movedOutcome : Outcome where
  action := .redirect "/b".toList true
  cookies := []
  contentType := none

private def movedAction : Stored := ofFields [("Redirect", ofFields [
  ("note", list []), ("permanent", bool true), ("url", text "/b".toList)])]

/-- The rules are left out and a bound of zero stays. The fields come in another order, with further
ones beside them. -/
theorem read_back_of_rearranged :
    idleSettings.options.maxPasses < Count.bound ∧
    Settings.ofStored? (ofFields [("note", null), ("options", ofFields [("max_passes", whole 0)]),
      ("enabled", bool true)]) = some { idleSettings with rules := [] } ∧
    Outcome.ofStored? (ofFields [("content_type", null), ("cookies", list []),
      ("action", movedAction)]) = some movedOutcome := by
  have hbound : idleSettings.options.maxPasses < Count.bound := by decide
  obtain ⟨-, -, houtcome, hsettings, -, -⟩ := read_back movedOutcome idleSettings hbound
  refine ⟨hbound, ?_, ?_⟩
  · have hsame : ∀ entry ∈ Settings.schema, ∀ s, entry.2 s s := by
      simp [Settings.schema, Options.Rearranged, Rearranged.refl]
    have hkept := List.forall₂_same.mpr fun f (_ : f ∈ [
      ("enabled".toList, bool true), ("options".toList, idleSettings.options.toStored)]) =>
        SameField.refl hsame f
    refine hsettings ["rules"] [] _ (.record (by decide) hkept ?_ (List.reverse_perm [_, _, _]))
    simp [Settings.schema]
  · have hsame : ∀ entry ∈ Outcome.schema, ∀ s, entry.2 s s := by
      simp [Outcome.schema, Action.Rearranged.refl, SameItems.refl]
    have hbody : Rearranged [("url", Eq), ("permanent", Eq)]
        (ofFields [("url", text "/b".toList), ("permanent", bool true)])
        (ofFields [("note", list []), ("permanent", bool true), ("url", text "/b".toList)]) :=
      .record (by decide) (List.forall₂_same.mpr fun f _ => SameField.refl (by simp) f)
        (by simp) (List.reverse_perm [_, _, _])
    have haction : Action.Rearranged movedOutcome.action.toStored movedAction :=
      .tagged (by simp [Action.bodies]) hbody
    have hfield : SameField Outcome.schema ("action".toList, movedOutcome.action.toStored)
        ("action".toList, movedAction) :=
      ⟨rfl, by simpa [Outcome.schema] using haction⟩
    have hkept := List.Forall₂.cons hfield (List.forall₂_same.mpr fun f (_ : f ∈ [
      ("cookies".toList, list []), ("content_type".toList, null)]) => SameField.refl hsame f)
    have hunknown : ∀ f ∈ ([] : List (Text × Stored)), ∀ entry ∈ Outcome.schema,
        entry.1.toList ≠ f.1 := by
      simp
    exact houtcome _ (.record (by decide) hkept hunknown (List.reverse_perm [_, _, _]))

end Stored

end Reroute
