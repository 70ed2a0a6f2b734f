import Reroute.Rules.Line

/-!
A rule text written line by line.
-/

namespace Reroute

inductive Entry where
  | comment (text : Text)
  | statement (kind : Kind) (fields : Fields)
  deriving DecidableEq, Repr

namespace Entry

/-- The line of an entry. The flag list is left out if it has no token. -/
def line : Entry → Text
  | .comment text => "# ".toList ++ text
  | .statement kind fields =>
    kind.keyword ++ ' ' :: fields.first ++ ' ' :: fields.second ++
      if fields.flags.isEmpty then []
      else " [".toList ++ Text.join [','] fields.flags ++ [']']

def text (entries : List Entry) : Text := Text.join ['\n'] (entries.map line)

end Entry

end Reroute
