import Reroute.Proofs.Pass.Image
import Reroute.Proofs.Rules.Flags

/-!
# Flags that only add to the outcome

What a rule says of cookies, of the content type and of the kind of a redirection goes into the state
of a pass and comes out of it at the end. No visit looks at it on the way. So a pass without these
flags makes the same visits to the same URLs, and only its outcome is poorer.
-/

namespace Reroute

open Pass

/-! ### What is left without them -/

namespace Action

/-- A redirection is led to its URL without the client. -/
def withoutRedirect : Action → Action
  | .redirect url _ => .transfer url
  | action => action

@[simp]
theorem url?_withoutRedirect (action : Action) : action.withoutRedirect.url? = action.url? := by
  cases action <;> rfl

end Action

def Outcome.withoutOutput (outcome : Outcome) : Outcome where
  action := outcome.action.withoutRedirect
  cookies := []
  contentType := none

def Report.withoutOutput (report : Report) : Report :=
  { report with outcome := report.outcome.withoutOutput }

def Pass.State.withoutOutput (state : State) : State :=
  { state with action := state.action.withoutRedirect, cookies := [], contentType := none }

/-- The flags without `CO`, `T` and `R`. -/
def RuleFlags.withoutOutput (flags : RuleFlags) : RuleFlags :=
  { flags with redirect := none, contentType := none, cookies := [] }

def Rule.withoutOutput (r : Rule) : Rule := { r with flags := r.flags.withoutOutput }

def Directive.withoutOutput : Directive → Directive
  | .condition c => .condition c
  | .rule r => .rule r.withoutOutput

/-! ### Their tokens -/

namespace FlagToken

/-- Whether a token can be used and only adds to the outcome. -/
def isOutput (token : Text) : Bool :=
  match flag? token with
  | some .cookie | some .contentType | some .redirect =>
    (({} : RuleFlags).withToken? token).isSome
  | _ => false

end FlagToken

namespace RuleFlags

theorem withoutOutput_withToken (flags : RuleFlags) (token : Text) :
    (flags.withToken token).withoutOutput =
      bif !FlagToken.isOutput token then flags.withoutOutput.withToken token
      else flags.withoutOutput := by
  unfold withToken FlagToken.isOutput withToken? FlagToken.flag?
  cases RuleFlag.ofName? (FlagToken.name token) with
  | none => rfl
  | some flag =>
      dsimp only
      cases flag with
      | skip => cases (FlagToken.argument? token).bind skipCount? <;> rfl
      | contentType => rcases FlagToken.argument? token with _ | _ | _ <;> rfl
      | cookie => cases (FlagToken.argument? token).bind CookieFlag.ofArgument? <;> rfl
      | «variable» => cases (FlagToken.argument? token).bind VariableFlag.ofArgument? <;> rfl
      | _ => rfl

theorem ofTokens_filter_not_isOutput (tokens : List Text) :
    ofTokens (tokens.filter (!FlagToken.isOutput ·)) = (ofTokens tokens).withoutOutput :=
  ofTokens_filter rfl withoutOutput_withToken tokens

end RuleFlags

theorem Rule.ofFields_filter_not_isOutput (line : Nat) (text : Text) (fields : Fields) :
    ofFields line text { fields with flags := fields.flags.filter (!FlagToken.isOutput ·) } =
      (ofFields line text fields).withoutOutput := by
  unfold ofFields withoutOutput
  simp only [RuleFlags.ofTokens_filter_not_isOutput]
  rfl

/-! ### One visit -/

variable {path : Text}

theorem Condition.visit_withoutOutput (c : Condition) (s : State) :
    c.visit s.withoutOutput = (c.visit s).map State.withoutOutput := by
  have hverdict : c.verdict s.withoutOutput = c.verdict s := rfl
  have hevaluated : c.isEvaluated s.withoutOutput = c.isEvaluated s := rfl
  unfold visit
  rw [hevaluated, hverdict]
  split_ifs
  · cases c.verdict s <;> rfl
  · rfl

namespace Rule

theorem apply_withoutOutput (r : Rule) (groups : Groups) (s : State) :
    r.withoutOutput.apply groups s.withoutOutput =
      ((r.apply groups s).1.withoutOutput, (r.apply groups s).2) := by
  have hforbidden : r.withoutOutput.flags.forbidden = r.flags.forbidden := rfl
  have hgone : r.withoutOutput.flags.gone = r.flags.gone := rfl
  unfold apply
  rw [hforbidden, hgone]
  split_ifs
  · rfl
  · rfl
  · -- The rule leads to its URL either way, with or without the client.
    have haction : r.withoutOutput.flags.action s.url =
        (r.flags.action s.url).withoutRedirect := by
      unfold RuleFlags.action
      cases r.flags.redirect <;> rfl
    have hurl : s.withoutOutput.url = s.url := rfl
    rw [hurl, haction]
    rfl

theorem fire_withoutOutput (r : Rule) (below : Text) (groups : Groups) (s : State) :
    r.withoutOutput.fire below groups s.withoutOutput =
      (r.fire below groups s).map fun (state, course) => (state.withoutOutput, course) := by
  have hinvalid : r.withoutOutput.flags.invalid = r.flags.invalid := rfl
  have hurl : r.withoutOutput.newUrl below groups s.withoutOutput = r.newUrl below groups s := rfl
  unfold fire
  rw [hinvalid, hurl]
  cases r.flags.invalid with
  | some token => rfl
  | none =>
      cases r.newUrl below groups s with
      | error fault => rfl
      | ok url =>
          exact congrArg Except.ok
            (apply_withoutOutput r groups { s with url, previousFired := true })

theorem visit_withoutOutput (r : Rule) (s : State) :
    r.withoutOutput.visit path s.withoutOutput =
      (r.visit path s).map fun (state, course) => (state.withoutOutput, course) := by
  cases htried : r.isTried s with
  | false =>
      have htried' : r.withoutOutput.isTried s.withoutOutput = false := htried
      rw [visit_of_not_isTried htried, visit_of_not_isTried htried']
      unfold State.passOver
      have hskip : s.withoutOutput.skip = s.skip := rfl
      rw [hskip]
      split_ifs <;> rfl
  | true =>
      have htried' : r.withoutOutput.isTried s.withoutOutput = true := htried
      have hmatch : r.withoutOutput.match? (Url.pathBelow s.withoutOutput.url path) =
          r.match? (Url.pathBelow s.url path) := rfl
      rw [visit_of_isTried htried, visit_of_isTried htried', attempt_eq, attempt_eq, hmatch]
      cases r.match? (Url.pathBelow s.url path) with
      | error fault => rfl
      | ok matched =>
          cases matched with
          | none => rfl
          | some groups =>
              have hurl : s.withoutOutput.url = s.url := rfl
              dsimp only
              rw [hurl, fire_withoutOutput]
              cases r.fire (Url.pathBelow s.url path) groups s <;> rfl

end Rule

/-! ### Whole passes -/

def Pass.Image.withoutOutput : Image where
  directive := Directive.withoutOutput
  state := State.withoutOutput
  line := id

theorem Pass.Image.withoutOutput_commutes (path : Text) : withoutOutput.Commutes path where
  line d := by cases d <;> rfl
  text d := by cases d <;> rfl
  url _ := rfl
  visit d s := by
    cases d with
    | condition c =>
        have hvisit := c.visit_withoutOutput s
        change (c.visit s.withoutOutput).map _ = ((c.visit s).map _).map _
        rw [hvisit]
        cases c.visit s <;> rfl
    | rule r => exact r.visit_withoutOutput s

theorem Failure.mapLine_id (f : Failure) : f.mapLine id = f := by
  cases f <;> rfl

/-- **Flags that only add to the outcome do not steer a pass.** Without `CO`, `T` and `R` a pass fires
the same rules in as many visits and restarts, or fails in the same way. Its outcome has no cookies
and no content type, and in place of a redirection a transfer to the same URL. A rule of the rule text
loses these flags by losing their tokens, if they are such as can be used. -/
theorem Pass.ofDirectives_withoutOutput (directives : List Directive) (facts : Facts)
    (options : Options) :
    Report.ofDirectives (directives.map Directive.withoutOutput) facts options =
        (Report.ofDirectives directives facts options).map Report.withoutOutput ∧
      (∀ report : Report,
        report.withoutOutput.outcome.action.url? = report.outcome.action.url?) ∧
      ∀ line text fields,
        Rule.ofFields line text
            { fields with flags := fields.flags.filter (!FlagToken.isOutput ·) } =
          (Rule.ofFields line text fields).withoutOutput := by
  refine ⟨?_, fun report => report.outcome.action.url?_withoutRedirect,
    Rule.ofFields_filter_not_isOutput⟩
  have hreport : ∀ c, Report.ofConfig (Image.withoutOutput.config c) =
      (Report.ofConfig c).withoutOutput := by
    intro c
    simp [Report.ofConfig, Image.config, Image.withoutOutput, Report.withoutOutput, State.outcome,
      State.withoutOutput, Outcome.withoutOutput]
  have himage := (Image.withoutOutput_commutes facts.applicationPath).ofDirectives_image rfl hreport
    directives options
  change Report.ofDirectives (directives.map Directive.withoutOutput) facts options = _ at himage
  rw [himage]
  cases Report.ofDirectives directives facts options with
  | error failure => exact congrArg Except.error failure.mapLine_id
  | ok report => rfl

end Reroute
