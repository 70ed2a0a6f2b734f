import Reroute.Text

/-!
The target of a request: `scheme://authority/path?query`, a path alone, or an authority alone.

A target is checked as it is read. The scheme ends at `://`, the authority at the first slash,
question mark or number sign, and what follows a number sign is dropped.
-/

namespace Reroute

inductive TargetError where
  | empty
  | tooLong
  | schemeTooLong
  | character
  | authority
  | form
  deriving DecidableEq, Repr

structure Target where
  scheme : Option Text := none
  /-- Empty if the target names no host. -/
  authority : Text := []
  /-- Empty only if the target is an authority alone. -/
  path : Text := []
  query : Option Text := none
  deriving DecidableEq, Repr

namespace TargetError

def message : TargetError → Text
  | .empty => "empty string".toList
  | .tooLong => "uri too long".toList
  | .schemeTooLong => "scheme too long".toList
  | .character => "invalid uri character".toList
  | .authority => "invalid authority".toList
  | .form => "invalid format".toList

end TargetError

/-- What has been seen of an authority, read from its front. A percent sign and colons count for
nothing once an at sign or a closing bracket follows them. -/
structure AuthorityScan where
  colons : Nat := 0
  percent : Bool := false
  opened : Bool := false
  closed : Bool := false
  /-- Whether the last character was an at sign. -/
  bare : Bool := false
  deriving DecidableEq, Repr

namespace AuthorityScan

/-- More colons than this never stand together, not even in an address in brackets. -/
def maxColons : Nat := 8

def isPlain (c : Char) : Bool := c.isAlphanum || c ∈ "!$&'()*+,-.;=_~".toList

def push (scan : AuthorityScan) (c : Char) : Except TargetError AuthorityScan :=
  let scan' := { scan with bare := false }
  if c = ':' then
    if scan.colons < maxColons then .ok { scan' with colons := scan.colons + 1 }
    else .error .authority
  else if c = '[' then
    if scan.percent || scan.opened then .error .authority else .ok { scan' with opened := true }
  else if c = ']' then
    if !scan.opened || scan.closed then .error .authority
    else .ok { scan' with closed := true, colons := 0, percent := false }
  else if c = '@' then .ok { scan' with colons := 0, percent := false, bare := true }
  else if c = '%' then .ok { scan' with percent := true }
  else if isPlain c then .ok scan'
  else .error .character

def isComplete (scan : AuthorityScan) : Bool :=
  scan.opened == scan.closed && scan.colons ≤ 1 && !scan.bare && !scan.percent

def check (authority : Text) : Except TargetError Unit := do
  let scan ← authority.foldlM push {}
  if scan.isComplete then return else throw .authority

end AuthorityScan

namespace Target

/-- The largest length of a target, in bytes of its UTF-8 form. -/
def maxBytes : Nat := 65534

def maxScheme : Nat := 64

def isSchemeChar (c : Char) : Bool := c.isAlphanum || c ∈ "+-.~".toList

def isAuthorityEnd (c : Char) : Bool := c == '/' || c == '?' || c == '#'

/-- The characters that a path and a query can have in common: all beyond ASCII, and those of
ASCII that are seen, less `"`, `#`, `<`, `>`, `?`, the grave accent and the curly brackets. -/
def isCommonChar (c : Char) : Bool :=
  let n := c.toNat
  n == 0x21 || (0x24 ≤ n && n ≤ 0x3B) || n == 0x3D || (0x40 ≤ n && n ≤ 0x5F) ||
    (0x61 ≤ n && n ≤ 0x7A) || n == 0x7C || n == 0x7E || 0x80 ≤ n

def isPathChar (c : Char) : Bool := isCommonChar c || c == '"' || c == '\x7b' || c == '\x7d'

def isQueryChar (c : Char) : Bool :=
  isCommonChar c || c == '?' || c == '\x60' || c == '\x7b' || c == '\x7d'

def cutScheme (t : Text) : Except TargetError (Option Text × Text) :=
  let scheme := t.takeWhile isSchemeChar
  match Text.dropStart? "://".toList (t.dropWhile isSchemeChar) with
  | none => .ok (none, t)
  | some rest =>
    if scheme = [] ∧ rest = [] then .ok (none, t)
    else if scheme.length ≤ maxScheme then .ok (some scheme, rest)
    else .error .schemeTooLong

/-- A path and a query, without the fragment behind them. An empty path stands for the root. -/
def ofPath (scheme : Option Text) (authority t : Text) : Except TargetError Target :=
  let body := Text.before '#' t
  let path := Text.before '?' body
  let query := if '?' ∈ body then some (Text.after '?' body) else none
  if path.all isPathChar ∧ (query.getD []).all isQueryChar then
    .ok { scheme, authority, path := if path = [] then ['/'] else path, query }
  else .error .character

def ofAuthority (t : Text) : Except TargetError Target := do
  let (scheme, rest) ← cutScheme t
  if rest = [] then throw .empty
  let authority := rest.takeWhile (!isAuthorityEnd ·)
  AuthorityScan.check authority
  let tail := rest.dropWhile (!isAuthorityEnd ·)
  match scheme with
  | none => if tail = [] then return { authority } else throw .form
  | some _ => if authority = [] then throw .form else ofPath scheme authority tail

def ofText (t : Text) : Except TargetError Target :=
  if maxBytes < (String.ofList t).utf8ByteSize then .error .tooLong
  else match t with
    | [] => .error .empty
    | ['*'] => .ok { path := ['*'] }
    | ['?'] | ['#'] => .error .character
    | '/' :: _ => ofPath none [] t
    | _ => ofAuthority t

/-- The host that an authority names, without the user before it and the number behind it. A
host in brackets keeps them. -/
def host (authority : Text) : Text :=
  let place := (authority.reverse.takeWhile (· != '@')).reverse
  if place.head? = some '[' then Text.before ']' place ++ [']'] else Text.before ':' place

def host? (target : Target) : Option Text :=
  if target.authority = [] then none else some (host target.authority)

def url (target : Target) : Text :=
  match target.query with
  | none => target.path
  | some query => target.path ++ '?' :: query

def isSecure (target : Target) : Bool :=
  target.scheme.map Text.lowerAscii == some "https".toList

end Target

end Reroute
