import Reroute.Environment
import Reroute.Proofs.References

/-!
# Scans

A scan cuts a text into characters and references from left to right: where a reference is written it
goes on behind it, and everywhere else it takes one character. No two references are written at one
place, so that every text has exactly one scan, and each step of an expansion works on the scan for
the references of its kind.
-/

namespace Reroute

/-- A reference as a text writes it: a name in braces behind a percent sign, up to the first brace
that closes it, or a sigil and a decimal digit. -/
inductive Reference where
  | var (name : Text) (closed : '\x7d' ∉ name)
  | group (source : GroupSource) (digit : Char) (decimal : Unicode.Digit.isDigit digit = true)

namespace Reference

/-- The references that one step of an expansion replaces. -/
inductive Kind where
  | var
  | group (source : GroupSource)
  deriving DecidableEq

def kind : Reference → Kind
  | .var .. => .var
  | .group source .. => .group source

def text : Reference → Text
  | .var name _ => variableReference name
  | .group source digit _ => [source.sigil, digit]

def groups (condition : Option Groups) (rule : Groups) : GroupSource → Option Groups
  | .condition => condition
  | .rule => some rule

def value (env : Environment) (url : Text) (condition : Option Groups) (rule : Groups) :
    Reference → Except Fault Text
  | .var name _ => env.read name url
  | .group source digit _ =>
    Groups.read source (groups condition rule source) (Unicode.Digit.asciiValue digit)

/-- One step of an expansion: it replaces the references of a kind. -/
def Kind.expand (env : Environment) (url : Text) (condition : Option Groups) (rule : Groups) :
    Kind → Text → Except Fault Text
  | .var => env.expand url
  | .group source => Groups.expand source (groups condition rule source)

variable {r r' : Reference} {c : Char} {t rest : Text}

theorem text_ne_nil (r : Reference) : r.text ≠ [] := by
  cases r <;> simp [text, variableReference]

theorem isPrefix_cons (h : r.text <+: c :: rest) : c = '%' ∨ c = '$' := by
  cases r with
  | var name _ => exact .inl (List.cons_prefix_cons.mp h).1.symm
  | group source digit _ =>
      have hsigil : source.sigil = c := (List.cons_prefix_cons.mp h).1
      cases source with
      | condition => exact .inl hsigil.symm
      | rule => exact .inr hsigil.symm

theorem eq_of_isPrefix (h : r.text <+: t) (h' : r'.text <+: t) : r = r' := by
  obtain ⟨rest, rfl⟩ := h
  obtain ⟨rest', heq⟩ := h'
  cases r with
  | var name closed =>
      cases r' with
      | var name' closed' =>
          have hnames : name' ++ '\x7d' :: rest' = name ++ '\x7d' :: rest := by
            simpa [text, variableReference] using heq
          have hbefore := congrArg (Text.before '\x7d') hnames
          rw [Text.before_append, Text.before_append, if_neg closed, if_neg closed'] at hbefore
          obtain rfl : name' = name := by simpa [Text.before] using hbefore
          rfl
      | group source digit decimal =>
          obtain ⟨-, rfl, -⟩ : source.sigil = '%' ∧ digit = '\x7b' ∧ _ := by
            simpa [text, variableReference] using heq
          cases decimal
  | group source digit decimal =>
      cases r' with
      | var name' closed' =>
          obtain ⟨-, rfl, -⟩ : '%' = source.sigil ∧ '\x7b' = digit ∧ _ := by
            simpa [text, variableReference] using heq
          cases decimal
      | group source' digit' decimal' =>
          obtain ⟨hsigil, rfl, -⟩ : source'.sigil = source.sigil ∧ digit' = digit ∧ rest' = rest := by
            simpa [text] using heq
          have hsource : source' = source := by
            cases source <;> cases source' <;> first | rfl | cases hsigil
          subst hsource
          rfl

end Reference

/-! ### One scan for every text -/

def Piece.text : Piece Reference → Text
  | .char c => [c]
  | .reference r => r.text

/-- The scan of a text for the references that satisfy `p`. -/
inductive Scanned (p : Reference → Prop) : Text → List (Piece Reference) → Prop
  | nil : Scanned p [] []
  | char {c : Char} {rest : Text} {pieces : List (Piece Reference)}
      (hnone : ∀ r, p r → ¬ r.text <+: c :: rest) :
      Scanned p rest pieces → Scanned p (c :: rest) (.char c :: pieces)
  | reference {r : Reference} {t rest : Text} {pieces : List (Piece Reference)}
      (hr : p r) (ht : t = r.text ++ rest) :
      Scanned p rest pieces → Scanned p t (.reference r :: pieces)

namespace Scanned

variable {p : Reference → Prop} {t : Text} {pieces pieces' : List (Piece Reference)} {r : Reference}

theorem exists_scanned (p : Reference → Prop) (t : Text) : ∃ pieces, Scanned p t pieces := by
  induction hlength : t.length using Nat.strong_induction_on generalizing t with
  | _ n ih =>
      subst hlength
      by_cases hr : ∃ r, p r ∧ r.text <+: t
      · obtain ⟨r, hr, rest, rfl⟩ := hr
        have hshorter : rest.length < (r.text ++ rest).length := by
          have hpos := List.length_pos_iff.mpr r.text_ne_nil
          rw [List.length_append]
          omega
        obtain ⟨pieces, hpieces⟩ := ih _ hshorter rest rfl
        exact ⟨_, .reference hr rfl hpieces⟩
      · cases t with
        | nil => exact ⟨[], .nil⟩
        | cons c rest =>
            obtain ⟨pieces, hpieces⟩ := ih _ (by simp) rest rfl
            exact ⟨_, .char (fun r hp hwritten => hr ⟨r, hp, hwritten⟩) hpieces⟩

theorem flatMap_text (h : Scanned p t pieces) : pieces.flatMap Piece.text = t := by
  induction h with
  | nil => rfl
  | char _ _ ih => rw [List.flatMap_cons, ih]; rfl
  | reference _ ht _ ih => rw [List.flatMap_cons, ih, ht]; rfl

theorem of_mem (h : Scanned p t pieces) (hr : .reference r ∈ pieces) : p r := by
  induction h with
  | nil => cases hr
  | char _ _ ih => exact ih (by simpa using hr)
  | @reference r' _ _ _ hp _ _ ih =>
      rcases List.mem_cons.mp hr with heq | hrest
      · rwa [Piece.reference.inj heq]
      · exact ih hrest

theorem append {chars rest : Text}
    (hnone : ∀ n < chars.length, ∀ r, p r → ¬ r.text <+: (chars ++ rest).drop n)
    (h : Scanned p rest pieces) : Scanned p (chars ++ rest) (chars.map .char ++ pieces) := by
  induction chars with
  | nil => exact h
  | cons c chars ih =>
      refine .char (hnone 0 (Nat.zero_lt_succ _)) (ih fun n hn => ?_)
      exact hnone (n + 1) (Nat.succ_lt_succ hn)

end Scanned

/-! ### The steps of an expansion -/

theorem variablePiecesFrom_append {name : Text} (closed : '\x7d' ∉ name) (start rest : Text) :
    variablePiecesFrom (some start) (name ++ '\x7d' :: rest) =
      .reference (start ++ name) :: variablePiecesFrom none rest := by
  induction name generalizing start with
  | nil => simp [variablePiecesFrom]
  | cons c name ih =>
      rw [List.mem_cons, not_or] at closed
      rw [List.cons_append, variablePiecesFrom, if_neg (Ne.symm closed.1), ih closed.2,
        List.append_assoc]
      rfl

theorem variablePieces_append {name : Text} (closed : '\x7d' ∉ name) (rest : Text) :
    variablePieces (variableReference name ++ rest) = .reference name :: variablePieces rest := by
  have happend : variableReference name ++ rest = '%' :: '\x7b' :: (name ++ '\x7d' :: rest) := by
    simp [variableReference]
  rw [variablePieces, happend, variablePiecesFrom, if_pos (by simp),
    variablePiecesFrom_append closed]
  rfl

theorem variablePieces_cons {c : Char} {rest : Text}
    (hnone : ∀ name, '\x7d' ∉ name → ¬ variableReference name <+: c :: rest) :
    variablePieces (c :: rest) = .char c :: variablePieces rest := by
  by_cases hopens : ∃ rest', c = '%' ∧ rest = '\x7b' :: rest'
  · obtain ⟨rest, rfl, rfl⟩ := hopens
    have hunclosed : '\x7d' ∉ rest := by
      intro hmem
      refine hnone _ (Text.not_mem_before '\x7d' rest) ⟨Text.after '\x7d' rest, ?_⟩
      have hparts := Text.before_append_after hmem
      simp [variableReference, hparts]
    rw [variablePieces, variablePieces, variablePiecesFrom, if_neg hunclosed, variablePiecesFrom]
    simp
  · rw [variablePieces, variablePiecesFrom]
    · rfl
    · rintro rest' rfl rfl
      exact hopens ⟨rest', rfl, rfl⟩

theorem groupPieces_append {sigil digit : Char} (decimal : Unicode.Digit.isDigit digit = true)
    (rest : Text) :
    groupPieces sigil (sigil :: digit :: rest) =
      .reference (Unicode.Digit.asciiValue digit) :: groupPieces sigil rest := by
  rw [groupPieces, if_pos ⟨rfl, decimal⟩]

theorem groupPieces_cons {sigil c : Char} {rest : Text}
    (hnone : ∀ digit, Unicode.Digit.isDigit digit = true → ¬ [sigil, digit] <+: c :: rest) :
    groupPieces sigil (c :: rest) = .char c :: groupPieces sigil rest := by
  cases rest with
  | nil => rfl
  | cons d rest =>
      rw [groupPieces, if_neg]
      rintro ⟨rfl, decimal⟩
      exact hnone d decimal ⟨rest, rfl⟩

namespace Reference.Kind

variable {env : Environment} {url : Text} {condition : Option Groups} {rule : Groups} {k : Kind}
  {p : Reference → Prop} {t : Text} {pieces : List (Piece Reference)}

theorem expand_nil : k.expand env url condition rule [] = .ok [] := by
  cases k <;> rfl

theorem expand_cons {c : Char} {rest : Text}
    (hnone : ∀ r : Reference, r.kind = k → ¬ r.text <+: c :: rest) :
    k.expand env url condition rule (c :: rest) =
      (k.expand env url condition rule rest).map (c :: ·) := by
  cases k with
  | var =>
      rw [expand, Environment.expand, variablePieces_cons fun name closed =>
        hnone (.var name closed) rfl]
      rfl
  | group source =>
      rw [expand, Groups.expand, groupPieces_cons fun digit decimal =>
        hnone (.group source digit decimal) rfl]
      rfl

theorem expand_append {r : Reference} (hr : r.kind = k) (rest : Text) :
    k.expand env url condition rule (r.text ++ rest) = do
      let text ← r.value env url condition rule
      return text ++ (← k.expand env url condition rule rest) := by
  subst hr
  cases r with
  | var name closed =>
      rw [kind, expand, Environment.expand, Reference.text, variablePieces_append closed]
      rfl
  | group source digit decimal =>
      rw [kind, expand, Groups.expand]
      change Piece.expand _ (groupPieces _ (source.sigil :: digit :: rest)) = _
      rw [groupPieces_append decimal]
      rfl

theorem expand_append_of_ne {r : Reference} (hr : r.kind ≠ k) (hgroup : r.kind ≠ .var)
    (rest : Text) :
    k.expand env url condition rule (r.text ++ rest) =
      (k.expand env url condition rule rest).map (r.text ++ ·) := by
  cases r with
  | var name closed => exact absurd rfl hgroup
  | group source digit decimal =>
      have hsigil : ∀ r' : Reference, r'.kind = k → ¬ r'.text <+: source.sigil :: digit :: rest := by
        intro r' hr' hwritten
        obtain rfl := eq_of_isPrefix (r := .group source digit decimal) ⟨rest, rfl⟩ hwritten
        exact hr hr'
      have hdigit : ∀ r' : Reference, r'.kind = k → ¬ r'.text <+: digit :: rest := by
        intro r' _ hwritten
        rcases isPrefix_cons hwritten with rfl | rfl <;> cases decimal
      change k.expand env url condition rule (source.sigil :: digit :: rest) = _
      rw [expand_cons hsigil, expand_cons hdigit]
      cases k.expand env url condition rule rest <;> rfl

/-- A step replaces the references of its kind in a scan, also in a scan for more references. -/
theorem expand_eq_of_scanned (hk : ∀ r : Reference, r.kind = k → p r)
    (hgroup : ∀ r, p r → r.kind ≠ k → r.kind ≠ .var) (h : Scanned p t pieces) :
    k.expand env url condition rule t = Piece.expand
      (fun r => if r.kind = k then r.value env url condition rule else .ok r.text) pieces := by
  induction h with
  | nil => exact expand_nil
  | char hnone _ ih => rw [expand_cons fun r hr => hnone r (hk r hr), ih]; rfl
  | @reference r t rest pieces hp ht _ ih =>
      subst ht
      by_cases hr : r.kind = k
      · rw [expand_append hr, ih, Piece.expand, if_pos hr]
      · rw [expand_append_of_ne hr (hgroup r hp hr), ih, Piece.expand, if_neg hr]
        cases Piece.expand _ pieces <;> rfl

theorem expand_eq (h : Scanned (·.kind = k) t pieces) :
    k.expand env url condition rule t =
      Piece.expand (Reference.value env url condition rule) pieces := by
  rw [expand_eq_of_scanned (fun _ hr => hr) (fun _ hr hne => absurd hr hne) h]
  exact Piece.expand_congr fun r hr => if_pos (h.of_mem hr)

end Reference.Kind

/-! ### What an expansion results in -/

def resultOf (fault? : Option Fault) (t : Text) : Except Fault Text :=
  match fault? with
  | some fault => .error fault
  | none => .ok t

theorem resultOf_eq_ok_iff {fault? : Option Fault} {t u : Text} :
    resultOf fault? t = .ok u ↔ fault? = none ∧ t = u := by
  cases fault? <;> simp [resultOf]

theorem resultOf_eq_error_iff {fault? : Option Fault} {t : Text} {fault : Fault} :
    resultOf fault? t = .error fault ↔ fault? = some fault := by
  cases fault? <;> simp [resultOf]

namespace Piece

variable {α : Type}

def fault? (value : α → Except Fault Text) (r : α) : Option Fault :=
  match value r with
  | .error fault => some fault
  | .ok _ => none

def filled (value : α → Except Fault Text) : Piece α → Text
  | .char c => [c]
  | .reference r => (value r).toOption.getD []

/-- The leftmost reference without a value decides what is wrong. If there is none, every reference
is replaced by its value once, and the characters are copied. -/
theorem expand_eq (value : α → Except Fault Text) (pieces : List (Piece α)) :
    expand value pieces =
      resultOf ((references pieces).findSome? (fault? value)) (pieces.flatMap (filled value)) := by
  induction pieces with
  | nil => rfl
  | cons piece rest ih =>
      cases piece with
      | char c =>
          change (expand value rest).map (c :: ·) =
            resultOf ((references rest).findSome? (fault? value)) (c :: rest.flatMap (filled value))
          rw [ih]
          cases (references rest).findSome? (fault? value) <;> rfl
      | reference r =>
          change expand value (.reference r :: rest) =
            resultOf ((r :: references rest).findSome? (fault? value))
              ((value r).toOption.getD [] ++ rest.flatMap (filled value))
          rw [expand, ih, List.findSome?_cons]
          cases hvalue : value r with
          | error fault => simp [fault?, hvalue, resultOf, bind, Except.bind]
          | ok text =>
              rw [fault?, hvalue]
              cases (references rest).findSome? (fault? value) <;> rfl

theorem fault?_eq_some_iff {value : α → Except Fault Text} {r : α} {fault : Fault} :
    fault? value r = some fault ↔ value r = .error fault := by
  unfold fault?
  cases value r <;> simp

theorem fault?_eq_none_iff {value : α → Except Fault Text} {r : α} :
    fault? value r = none ↔ ∃ text, value r = .ok text := by
  unfold fault?
  cases value r <;> simp

theorem expand_eq_error_iff {value : α → Except Fault Text} {pieces : List (Piece α)}
    {fault : Fault} :
    expand value pieces = .error fault ↔
      ∃ before r after, references pieces = before ++ r :: after ∧ value r = .error fault ∧
        ∀ other ∈ before, ∃ text, value other = .ok text := by
  simp only [expand_eq, resultOf_eq_error_iff, List.findSome?_eq_some_iff, fault?_eq_some_iff,
    fault?_eq_none_iff]

theorem exists_expand_iff {value : α → Except Fault Text} {pieces : List (Piece α)} :
    (∃ text, expand value pieces = .ok text) ↔
      ∀ r ∈ references pieces, ∃ text, value r = .ok text := by
  simp only [expand_eq, resultOf_eq_ok_iff, List.findSome?_eq_none_iff, fault?_eq_none_iff,
    exists_and_left, exists_eq', and_true]

end Piece

end Reroute
