/-!
Text as the list of its characters: white space, cutting at a character, numbers in decimal.
-/

namespace Reroute

/-- Text is the list of its characters, so that reading it is recursion on the list. -/
abbrev Text := List Char

/-- The characters that Unicode counts as white space. -/
def isBlank (c : Char) : Bool :=
  let n := c.toNat
  (0x09 ≤ n && n ≤ 0x0D) || n == 0x20 || n == 0x85 || n == 0xA0 || n == 0x1680 ||
    (0x2000 ≤ n && n ≤ 0x200A) || n == 0x2028 || n == 0x2029 || n == 0x202F ||
    n == 0x205F || n == 0x3000

def isSpace (c : Char) : Bool := c == ' ' || c == '\t'

namespace Text

def trimEnd (t : Text) : Text := (t.reverse.dropWhile isBlank).reverse

def trim (t : Text) : Text := trimEnd (t.dropWhile isBlank)

/-- The part before the first `c`: all of the text if there is none. -/
def before (c : Char) (t : Text) : Text := t.takeWhile (· != c)

/-- The part after the first `c`: nothing if there is none. -/
def after (c : Char) (t : Text) : Text := (t.dropWhile (· != c)).drop 1

theorem before_append (c : Char) (t u : Text) :
    before c (t ++ u) = if c ∈ t then before c t else t ++ before c u := by
  unfold before
  induction t with
  | nil => simp
  | cons d rest ih =>
    by_cases hd : d = c
    · simp [hd]
    · have hmem : c ∈ d :: rest ↔ c ∈ rest := by simp [Ne.symm hd]
      have htake : (d != c) = true := by simpa using hd
      rw [List.cons_append, List.takeWhile_cons, if_pos htake, List.takeWhile_cons, if_pos htake, ih]
      by_cases hrest : c ∈ rest <;> simp [hrest, Ne.symm hd]

theorem after_append (c : Char) (t u : Text) :
    after c (t ++ u) = if c ∈ t then after c t ++ u else after c u := by
  unfold after
  induction t with
  | nil => simp
  | cons d rest ih =>
    by_cases hd : d = c
    · simp [hd]
    · have hdrop : (d != c) = true := by simpa using hd
      rw [List.cons_append, List.dropWhile_cons, if_pos hdrop, List.dropWhile_cons, if_pos hdrop, ih]
      by_cases hrest : c ∈ rest <;> simp [hrest, Ne.symm hd]

theorem not_mem_before (c : Char) (t : Text) : c ∉ before c t := by
  intro hmem
  have hall : (before c t).all (· != c) = true := List.all_takeWhile
  simpa using List.all_eq_true.mp hall c hmem

theorem before_append_after {c : Char} {t : Text} (h : c ∈ t) :
    before c t ++ c :: after c t = t := by
  unfold before after
  induction t with
  | nil => simp at h
  | cons d rest ih =>
    by_cases hd : d = c
    · simp [hd]
    · have hrest : c ∈ rest := by simpa [Ne.symm hd] using h
      simpa [hd] using ih hrest

def dropStart? (start t : Text) : Option Text :=
  if start.isPrefixOf t then some (t.drop start.length) else none

/-- The pieces between the characters that satisfy `sep`, the empty ones included. -/
def splitBy (sep : Char → Bool) : Text → List Text
  | [] => [[]]
  | c :: rest =>
    if sep c then [] :: splitBy sep rest
    else match splitBy sep rest with
      | [] => [[c]]
      | piece :: pieces => (c :: piece) :: pieces

def runs (sep : Char → Bool) (t : Text) : List Text :=
  (splitBy sep t).filter (fun piece => !piece.isEmpty)

def lowerAscii (t : Text) : Text := t.map Char.toLower

def ofNat (n : Nat) : Text := Nat.toDigits 10 n

def ofInt : Int → Text
  | .ofNat n => ofNat n
  | .negSucc n => '-' :: ofNat (n + 1)

def ofNatTwo (n : Nat) : Text := if n < 10 then '0' :: ofNat n else ofNat n

def toNat? (t : Text) : Option Nat :=
  if t.isEmpty || !t.all Char.isDigit then none
  else some (t.foldl (fun n c => 10 * n + (c.toNat - '0'.toNat)) 0)

def join (sep : Text) (ts : List Text) : Text := sep.intercalate ts

end Text

end Reroute
