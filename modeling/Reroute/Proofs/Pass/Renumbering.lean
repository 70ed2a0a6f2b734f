import Reroute.Proofs.Pass.Image
import Reroute.Rules.RuleSet

/-!
# Passes know of line numbers only to report them

Directives on other lines are visited as before. Their numbers show in the lines that fired and in
the line of a fault, and nowhere else.
-/

namespace Reroute

open Pass

def Directive.mapLine (line : Nat → Nat) : Directive → Directive
  | .condition c => .condition { c with line := line c.line }
  | .rule r => .rule { r with line := line r.line }

def Report.mapLine (line : Nat → Nat) (report : Report) : Report :=
  { report with fired := report.fired.map line }

def Statement.mapLine (line : Nat → Nat) (s : Statement) : Statement :=
  { s with line := line s.line }

theorem Directive.ofStatement_mapLine (line : Nat → Nat) (s : Statement) :
    ofStatement (s.mapLine line) = (ofStatement s).mapLine line := by
  unfold ofStatement Statement.mapLine
  cases s.kind <;> rfl

def Pass.Image.renumber (line : Nat → Nat) : Image where
  directive := Directive.mapLine line
  state := id
  line := line

theorem Pass.Image.renumber_commutes (line : Nat → Nat) (path : Text) :
    (renumber line).Commutes path where
  line d := by cases d <;> rfl
  text d := by cases d <;> rfl
  url _ := rfl
  visit d s := by
    have hvisit : (d.mapLine line).visit path s = d.visit path s := by
      cases d <;> rfl
    change (d.mapLine line).visit path s = _
    rw [hvisit]
    cases d.visit path s <;> rfl

/-- A pass through directives on other lines is the pass on the lines before, seen through their
renumbering. -/
theorem Report.ofDirectives_mapLine (line : Nat → Nat) (directives : List Directive) (facts : Facts)
    (options : Options) :
    ofDirectives (directives.map (Directive.mapLine line)) facts options =
      ((ofDirectives directives facts options).map (mapLine line)).mapError
        (Failure.mapLine line) := by
  have hreport : ∀ c, ofConfig ((Image.renumber line).config c) = (ofConfig c).mapLine line := by
    intro c
    simp [ofConfig, Image.config, Image.renumber, mapLine, List.map_reverse]
  exact (Image.renumber_commutes line facts.applicationPath).ofDirectives_image rfl hreport
    directives options

end Reroute
