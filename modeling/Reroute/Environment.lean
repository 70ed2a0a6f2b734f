import Reroute.Facts
import Reroute.Reference
import Reroute.Unicode.Quoted

/-!
The variables of a pass. Their values are worked out when they are read: the query string is that
of the URL at that moment, and a value that a rule has set keeps the groups of its firing.
-/

namespace Reroute

inductive Value where
  | fixed (text : Text)
  | currentQuery
  /-- A text with group references, and the groups that they refer to. -/
  | template (text : Text) (condition : Option Groups) (rule : Groups)
  deriving DecidableEq, Repr

/-- Variables, each name once. -/
structure Environment where
  entries : List (Text × Value)
  deriving DecidableEq, Repr

namespace Value

def text (url : Text) : Value → Except Fault Text
  | .fixed text => .ok text
  | .currentQuery => .ok (Url.query url)
  | .template text condition rule => do
    let text ← Groups.expand .condition condition text
    Groups.expand .rule (some rule) text

end Value

namespace Environment

def empty : Environment := ⟨[]⟩

def contains (env : Environment) (name : Text) : Bool := env.entries.any (·.1 == name)

def value? (env : Environment) (name : Text) : Option Value := env.entries.lookup name

def erase (env : Environment) (name : Text) : Environment :=
  ⟨env.entries.filter (·.1 != name)⟩

def insert (env : Environment) (name : Text) (value : Value) : Environment :=
  ⟨(name, value) :: (env.erase name).entries⟩

theorem value?_erase (env : Environment) (name other : Text) :
    (env.erase name).value? other = if other = name then none else env.value? other := by
  unfold erase value?
  induction env.entries with
  | nil => simp
  | cons entry rest ih =>
    obtain ⟨key, value⟩ := entry
    rw [List.lookup_cons, List.filter_cons]
    by_cases hkey : key = name
    · by_cases hother : other = name
      · simpa [hkey, hother] using ih
      · have hne : (other == name) = false := by simpa using hother
        simpa [hkey, hother, hne] using ih
    · have hkeep : (key != name) = true := by simpa using hkey
      rw [if_pos hkeep, List.lookup_cons, ih]
      by_cases hother : other = key
      · simp [hother, hkey]
      · have hne : (other == key) = false := by simpa using hother
        simp [hne]

theorem value?_insert (env : Environment) (name other : Text) (value : Value) :
    (env.insert name value).value? other =
      if other = name then some value else env.value? other := by
  have herase := value?_erase env name other
  change List.lookup other ((name, value) :: (env.erase name).entries) = _
  rw [List.lookup_cons]
  by_cases hname : other = name
  · simp [hname]
  · have hne : (other == name) = false := by simpa using hname
    rw [if_neg hname] at herase
    rw [hne, if_neg hname]
    exact herase

def size (env : Environment) : Nat := env.entries.length

/-- The names in the order of their characters. -/
def names (env : Environment) : List Text :=
  (env.entries.map (·.1)).mergeSort fun a b => decide (¬ b < a)

def read (env : Environment) (name url : Text) : Except Fault Text :=
  match env.value? name with
  | some value => value.text url
  | none => .error (.undefinedVariable name)

def expand (env : Environment) (url t : Text) : Except Fault Text :=
  Piece.expand (env.read · url) (variablePieces t)

def display (env : Environment) : Text :=
  "Environment \x7b names: [".toList ++
    Text.join ", ".toList (env.names.map Unicode.quote) ++ "] \x7d".toList

/-- The variables that every request has. Those of the last line are always empty. -/
def builtIn (facts : Facts) : List (String × Value) := [
  ("HTTP_USER_AGENT", .fixed (facts.userAgent.getD [])),
  ("HTTP_REFERER", .fixed (facts.referer.getD [])),
  ("HTTP_COOKIE", .fixed (facts.cookie.getD [])),
  ("HTTP_HOST", .fixed (facts.host.getD [])),
  ("REMOTE_ADDR", .fixed (facts.remoteAddr.getD [])),
  ("REMOTE_HOST", .fixed (facts.remoteHost.getD [])),
  ("REMOTE_USER", .fixed (facts.remoteUser.getD [])),
  ("REQUEST_METHOD", .fixed facts.method),
  ("TIME_YEAR", .fixed (Text.ofInt facts.now.year)),
  ("TIME_MON", .fixed (Text.ofNat facts.now.month)),
  ("TIME_DAY", .fixed (Text.ofNat facts.now.day)),
  ("TIME_HOUR", .fixed (Text.ofNat facts.now.hour)),
  ("TIME_MIN", .fixed (Text.ofNat facts.now.minute)),
  ("TIME_SEC", .fixed (Text.ofNat facts.now.second)),
  ("TIME_WDAY", .fixed facts.now.weekdayName),
  ("TIME", .fixed facts.now.timeText),
  ("HTTPS", .fixed (if facts.secure then "on".toList else "off".toList)),
  ("REQUEST_URI", .fixed facts.url),
  ("QUERY_STRING", .currentQuery)] ++
  ["HTTP_FORWARDED", "HTTP_PROXY_CONNECTION", "HTTP_ACCEPT", "REMOTE_PORT", "REMOTE_IDENT",
    "SCRIPT_FILENAME", "PATH_INFO", "AUTH_TYPE"].map fun name => (name, .fixed [])

def ofFacts (facts : Facts) : Environment :=
  facts.extra.foldl (fun env (name, text) => env.insert name (.fixed text))
    ⟨(builtIn facts).map fun (name, value) => (name.toList, value)⟩

/-- A text with all its references replaced: first variables, then groups of conditions, then
groups of the rule. -/
def expandAll (env : Environment) (url : Text) (condition : Option Groups) (rule : Groups)
    (t : Text) : Except Fault Text := do
  let t ← env.expand url t
  let t ← Groups.expand .condition condition t
  Groups.expand .rule (some rule) t

end Environment

end Reroute
