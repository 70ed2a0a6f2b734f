import Reroute.Text

/-!
Ranges of characters as sequences of byte ranges in UTF-8.
-/

namespace Reroute.Pattern

abbrev ByteRanges := List (Nat × Nat)

namespace Utf8

def encode (n : Nat) : List Nat :=
  if n < 0x80 then [n]
  else if n < 0x800 then [0xC0 + n / 0x40, 0x80 + n % 0x40]
  else if n < 0x10000 then [0xE0 + n / 0x1000, 0x80 + n / 0x40 % 0x40, 0x80 + n % 0x40]
  else [0xF0 + n / 0x40000, 0x80 + n / 0x1000 % 0x40, 0x80 + n / 0x40 % 0x40, 0x80 + n % 0x40]

def encodeAll (t : Text) : List Nat := t.flatMap fun c => encode c.toNat

/-- Where a range has to be cut so that both parts can be encoded by fewer byte ranges: between
lengths, around the surrogates, and at multiples of powers of 64. The second part starts at the
result. -/
def cut? (first last : Nat) : Option Nat :=
  let lengths := [0x80, 0x800, 0x10000].find? fun n => first < n && n ≤ last
  let surrogates := [0xD800, 0xE000].find? fun n => first < n && n ≤ last
  let blocks := [0x40, 0x1000, 0x40000].findSome? fun n =>
    if first / n = last / n then none
    else if first % n ≠ 0 then some (first / n * n + n)
    else if last % n ≠ n - 1 then some (last / n * n)
    else none
  surrogates <|> lengths <|> if last < 0x80 then none else blocks

/-- The byte ranges of a range of code points, in order. The surrogates have none. -/
def byteRanges : Nat → Nat → Nat → List ByteRanges
  | 0, _, _ => []
  | fuel + 1, first, last =>
    match cut? first last with
    | some point => byteRanges fuel first (point - 1) ++ byteRanges fuel point last
    | none =>
      if 0xD800 ≤ first && last < 0xE000 then []
      else [(encode first).zip (encode last)]

def maxCuts : Nat := 64

def sequences (ranges : List (Nat × Nat)) : List ByteRanges :=
  ranges.flatMap fun (first, last) => byteRanges maxCuts first last

end Utf8

end Reroute.Pattern
