import Reroute.Proofs.Digits
import Reroute.Proofs.Scan
import Reroute.Proofs.Search

/-!
# Replacement by patterns

References can also be found by patterns: one for each kind, whose matches are replaced one after the
other while the text between them is copied in slices. The leftmost match is where the next reference
is written, and it notes what the reference holds, so that this loop is the scan again. Every match
begins with the characters that open a reference of its kind, and a text without them stays as it is.
-/

namespace Reroute

open Pattern (Expr Slots Program)

namespace Pattern

end Pattern

namespace Reference

/-- What stands between the characters that open a reference and those that close it. -/
def captured : Reference → Text
  | .var name _ => name
  | .group _ digit _ => [digit]

namespace Kind

def opener : Kind → Text
  | .var => ['%', '\x7b']
  | .group source => [source.sigil]

def nameChars : Unicode.CharSet := ⟨[(0, 0x7C), (0x7E, 0xD7FF), (0xE000, 0x10FFFF)]⟩

def expr : Kind → Expr
  | .var => .concat [.text ['%', '\x7b'],
      .capture 1 (.repetition (.set nameChars) 0 none true), .text ['\x7d']]
  | .group source => .concat [.text [source.sigil], .capture 1 (.set Pattern.CharClass.digits)]

def pattern (k : Kind) : Pattern := ⟨k.expr.groupCount, .ofExpr k.expr⟩

def program : Kind → Program
  | .var => ⟨8, #[.accept, .take (.singleton '\x7d') 0, .save 3 1, .fork 4 2, .take nameChars 3,
      .fork 4 2, .save 2 5, .take (.singleton '\x7b') 6, .take (.singleton '%') 7]⟩
  | .group source => ⟨4, #[.accept, .save 3 0, .take Pattern.CharClass.digits 1, .save 2 2,
      .take (.singleton source.sigil) 3]⟩

end Kind

def slots (r : Reference) (start : Nat) : Slots :=
  [none, none, some (start + r.kind.opener.length),
    some (start + r.kind.opener.length + r.captured.length)]

section Accepts

variable {t : Text} {place start stop : Nat} {noted slots : Slots}

end Accepts

end Reference

end Reroute
