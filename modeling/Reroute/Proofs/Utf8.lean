import Mathlib.Data.Char
import Mathlib.Data.List.Lex
import Mathlib.Order.Monotone.Basic
import Mathlib.Tactic.SplitIfs
import Reroute.Pattern.Utf8

/-!
# The order of texts and of their bytes

UTF-8 keeps the order of texts. The first byte of a character is larger the more bytes the character
has, and the bytes of characters of one length are digits to the base 64, the highest first. So texts
that are compared byte by byte come in the order of their characters.
-/

namespace Reroute

namespace Pattern.Utf8

/-- The smaller of two code points has the smaller bytes, whatever stands behind them. -/
theorem encode_append_lt {m n : Nat} (h : m < n) (s t : List Nat) :
    encode m ++ s < encode n ++ t := by
  unfold encode
  -- Between two lengths the first byte decides, within one length the digits.
  split_ifs <;> simp only [List.cons_append, List.nil_append, List.cons_lt_cons_iff] <;> omega

theorem encode_ne_nil (n : Nat) : encode n ≠ [] := by
  unfold encode
  split_ifs <;> exact List.cons_ne_nil _ _

theorem encodeAll_cons (c : Char) (t : Text) :
    encodeAll (c :: t) = encode c.toNat ++ encodeAll t := List.flatMap_cons

theorem encodeAll_lt {t u : Text} (h : t < u) : encodeAll t < encodeAll u := by
  induction t generalizing u with
  | nil =>
      cases u with
      | nil => exact absurd h (List.not_lt_nil _)
      | cons d u =>
          obtain ⟨byte, bytes, hbytes⟩ := List.exists_cons_of_ne_nil (encode_ne_nil d.toNat)
          rw [encodeAll_cons, hbytes]
          exact List.nil_lt_cons _ _
  | cons c t ih =>
      cases u with
      | nil => exact absurd h (List.not_lt_nil _)
      | cons d u =>
          rw [encodeAll_cons, encodeAll_cons]
          rcases List.cons_lt_cons_iff.mp h with hlt | ⟨rfl, htail⟩
          · exact encode_append_lt hlt _ _
          · exact List.append_left_lt (ih htail)

theorem encode_toNat (c : Char) :
    encode c.toNat = (String.utf8EncodeChar c).map UInt8.toNat := by
  have hvalue : c.val.toNat = c.toNat := rfl
  have hbound : c.toNat < 0x110000 := by
    rcases c.valid with hbelow | habove
    · exact lt_trans hbelow (by decide)
    · exact habove.2
  rw [String.utf8EncodeChar, hvalue, encode]
  simp only [Nat.le_iff_lt_add_one, Nat.reduceAdd]
  -- No byte is cut off at 256, since the first one has room for the digits that a character has.
  split_ifs <;> simp only [List.map_cons, List.map_nil, UInt8.toNat_ofNat', List.cons.injEq,
    and_true] <;> omega

end Pattern.Utf8

namespace Text

open Pattern

variable {t u : Text}

/-- The bytes of a text, as numbers. -/
def bytes (t : Text) : List Nat := (String.ofList t).toUTF8.data.toList.map UInt8.toNat

theorem encodeAll_eq_bytes (t : Text) : Utf8.encodeAll t = t.bytes := by
  rw [bytes, String.toUTF8_eq_toByteArray, String.toByteArray_ofList, List.utf8Encode,
    List.data_toByteArray, List.map_flatMap, Utf8.encodeAll]
  simp only [Utf8.encode_toNat]

theorem bytes_lt_iff : t.bytes < u.bytes ↔ t < u := by
  have hmono : StrictMono Utf8.encodeAll := fun _ _ => Utf8.encodeAll_lt
  rw [← encodeAll_eq_bytes, ← encodeAll_eq_bytes]
  exact hmono.lt_iff_lt

theorem map_toNat_lt_iff : t.map Char.toNat < u.map Char.toNat ↔ t < u := by
  have hmono : StrictMono (List.map Char.toNat) := by
    intro t u h
    exact List.map_lt (fun _ _ hlt => hlt) h
  exact hmono.lt_iff_lt

end Text

end Reroute
