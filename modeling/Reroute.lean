import Reroute.Cache
import Reroute.Count
import Reroute.Criterion
import Reroute.Digest
import Reroute.Environment
import Reroute.Facts
import Reroute.Failure
import Reroute.Fault
import Reroute.Instant
import Reroute.Outcome
import Reroute.Pass.Run
import Reroute.Pass.State
import Reroute.Pass.Visit
import Reroute.Pattern.Basic
import Reroute.Pattern.CharClass
import Reroute.Pattern.Expr
import Reroute.Pattern.Footprint
import Reroute.Pattern.Meaning
import Reroute.Pattern.Node
import Reroute.Pattern.Normal
import Reroute.Pattern.Program
import Reroute.Pattern.Reader
import Reroute.Pattern.Search
import Reroute.Pattern.Utf8
import Reroute.Proofs.Pass.History
import Reroute.Proofs.Pass.Step
import Reroute.Reference
import Reroute.Report
import Reroute.Request
import Reroute.Rules.Directive
import Reroute.Rules.Entry
import Reroute.Rules.Flags
import Reroute.Rules.Line
import Reroute.Rules.RuleSet
import Reroute.Rules.Source
import Reroute.Settings
import Reroute.Stored.Basic
import Reroute.Stored.Outcome
import Reroute.Stored.Settings
import Reroute.Target
import Reroute.Text
import Reroute.Trial
import Reroute.Unicode.Age
import Reroute.Unicode.Casing
import Reroute.Unicode.Category
import Reroute.Unicode.CharSet
import Reroute.Unicode.Digit
import Reroute.Unicode.Lower
import Reroute.Unicode.Property
import Reroute.Unicode.Quoted
import Reroute.Unicode.Recent
import Reroute.Unicode.Script
import Reroute.Unicode.Segment
import Reroute.Url
import Reroute.Proofs.Pass.Budget
import Reroute.Proofs.Pass.Dependence
import Reroute.Proofs.Pass.Mentioned
import Reroute.Proofs.Pass.QueryString
import Reroute.Proofs.Pass.Guards
import Reroute.Proofs.Pass.Firing
import Reroute.Proofs.Pass.Changes
import Reroute.Proofs.CharSets
import Reroute.Proofs.Rules.OneChar
import Reroute.Proofs.Pass.Walks
import Reroute.Proofs.Pass.LastFiring
import Reroute.Proofs.Pass.Cookies
import Reroute.Proofs.Pass.Sound
import Reroute.Proofs.Pass.Appended
import Reroute.Proofs.Pass.Unreached
import Reroute.Proofs.Pass.Recurrence
import Reroute.Proofs.Cache
import Reroute.Proofs.Pass.Image
import Reroute.Proofs.Pass.OutputFlags
import Reroute.Proofs.Rules.Grammar
import Reroute.Proofs.Rules.Entries
import Reroute.Proofs.Rules.InertLines
import Reroute.Proofs.Rules.Classification
import Reroute.Proofs.Rules.FlagLists
import Reroute.Proofs.Rules.Arguments
import Reroute.Proofs.Rules.LineEnds
import Reroute.Proofs.Pass.Skips
import Reroute.Proofs.Pass.Chained
import Reroute.Proofs.Pass.ChainedWalk
import Reroute.Proofs.Pass.CarriedQuery
import Reroute.Proofs.Pass.Faults
import Reroute.Proofs.Substitution
import Reroute.Proofs.Replacement
import Reroute.Proofs.MountPoint
import Reroute.Proofs.GroupReferences
import Reroute.Proofs.Stored
import Reroute.Proofs.Trial
import Reroute.Proofs.Comparison
