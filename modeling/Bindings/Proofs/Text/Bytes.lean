import Mathlib.Data.List.Lex

/-!
# The order of texts by their bytes

Texts are ordered by code point. That is the order of their bytes, in which the names of files are compared.

* `lex_utf8EncodeChar_append`: the bytes of two characters differ before either ends, the smaller byte being that of the
  smaller character.
* `precedes_iff`: a text precedes another by its bytes exactly when it is smaller.
-/

namespace Bindings.Text

/-- The bytes that a text is kept as. -/
def bytes (s : String) : List UInt8 :=
  s.toUTF8.data.toList

/-- The bytes of the one text come before those of the other. -/
def Precedes (a b : String) : Prop :=
  List.Lex (· < ·) (bytes a) (bytes b)

theorem bytes_eq_flatMap (s : String) : bytes s = s.toList.flatMap String.utf8EncodeChar := by
  conv => lhs; rw [← String.ofList_toList (s := s)]
  rw [bytes, String.toUTF8_eq_toByteArray, String.toByteArray_ofList]
  simp [List.utf8Encode]

/-- Bytes that are given as numbers are compared as those. -/
theorem lex_cons_ofNat_iff {m n : Nat} (hm : m < 256) (hn : n < 256) {s t : List UInt8} :
    List.Lex (· < ·) (UInt8.ofNat m :: s) (UInt8.ofNat n :: t) ↔ m < n ∨ m = n ∧ List.Lex (· < ·) s t := by
  rw [List.cons_lex_cons_iff, UInt8.lt_iff_toNat_lt, ← UInt8.toNat_inj, UInt8.toNat_ofNat', UInt8.toNat_ofNat',
    Nat.mod_eq_of_lt hm, Nat.mod_eq_of_lt hn]

theorem lex_utf8EncodeChar_append {c d : Char} (h : c < d) (s t : List UInt8) :
    List.Lex (· < ·) (String.utf8EncodeChar c ++ s) (String.utf8EncodeChar d ++ t) := by
  have hlt : c.val.toNat < d.val.toNat := h
  have hd : d.val.toNat < 0x110000 := by
    rcases d.valid with hd | hd <;> omega
  simp only [String.utf8EncodeChar]
  generalize c.val.toNat = m at hlt
  generalize d.val.toNat = n at hlt hd
  -- the first byte tells how many there are, and is greater for more
  split_ifs
  all_goals
    simp (disch := omega) only [List.cons_append, List.nil_append, lex_cons_ofNat_iff]
  any_goals omega
  -- of two characters of four bytes, the first digits to base 64 that differ decide
  rcases (Nat.div_le_div_right (c := 262144) hlt.le).lt_or_eq with h₁ | h₁
  · omega
  rcases (Nat.div_le_div_right (c := 4096) hlt.le).lt_or_eq with h₂ | h₂
  · omega
  rcases (Nat.div_le_div_right (c := 64) hlt.le).lt_or_eq with h₃ | h₃
  · omega
  · omega

theorem lex_flatMap_utf8EncodeChar {s t : List Char} (h : List.Lex (· < ·) s t) :
    List.Lex (· < ·) (s.flatMap String.utf8EncodeChar) (t.flatMap String.utf8EncodeChar) := by
  induction h with
  | @nil d t =>
    obtain ⟨b, bs, hd⟩ := List.exists_cons_of_ne_nil (String.utf8EncodeChar_ne_nil (c := d))
    rw [List.flatMap_nil, List.flatMap_cons, hd]
    exact .nil
  | cons _ ih => exact .append_left _ ih _
  | rel h => exact lex_utf8EncodeChar_append h _ _

theorem not_precedes_of_precedes {a b : String} (h : Precedes a b) : ¬Precedes b a :=
  asymm_of (List.Lex (· < ·)) h

theorem precedes_iff {a b : String} : Precedes a b ↔ a < b := by
  have hmono {a b : String} (h : a < b) : Precedes a b := by
    rw [Precedes, bytes_eq_flatMap, bytes_eq_flatMap]
    exact lex_flatMap_utf8EncodeChar h
  refine ⟨fun h => ?_, hmono⟩
  rcases Std.lt_trichotomy a b with hlt | rfl | hgt
  · exact hlt
  · exact absurd h (not_precedes_of_precedes h)
  · exact absurd h (not_precedes_of_precedes (hmono hgt))

end Bindings.Text
