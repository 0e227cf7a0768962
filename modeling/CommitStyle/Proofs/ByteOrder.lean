import CommitStyle.Text
import Mathlib.Tactic.Common
import Mathlib.Tactic.SplitIfs

/-!
# The order of texts

Texts are ordered by their characters. Their bytes in UTF-8 are in the same order, because the bytes
of a greater character are greater, whatever follows them.
-/

namespace CommitStyle.Text

def bytes (text : String) : List UInt8 := text.toUTF8.data.toList

lemma bytes_eq_flatMap (text : String) :
    bytes text = text.toList.flatMap String.utf8EncodeChar := by
  have h : text.toByteArray = (text.toList.flatMap String.utf8EncodeChar).toByteArray := by
    rw [← String.utf8Encode_toList, List.utf8Encode]
  rw [bytes, String.toUTF8_eq_toByteArray, h, List.data_toByteArray]

lemma toNat_byte {n : ℕ} (h : n < 256) : (UInt8.ofNat n).toNat = n :=
  UInt8.toNat_ofNat_of_lt' h

lemma utf8EncodeChar_append_lt {c d : Char} (h : c < d) (xs ys : List UInt8) :
    String.utf8EncodeChar c ++ xs < String.utf8EncodeChar d ++ ys := by
  obtain ⟨m, hm⟩ : ∃ m, m = c.val.toNat := ⟨_, rfl⟩
  obtain ⟨n, hn⟩ : ∃ n, n = d.val.toNat := ⟨_, rfl⟩
  have h₁ : m < n := hm ▸ hn ▸ h
  have hlt : n < 0x110000 := by
    rw [hn]
    rcases d.valid with hd | ⟨-, hd⟩
    · exact Nat.lt_trans hd (by decide)
    · exact hd
  -- The code points differ first in one of their digits in base 64, which the bytes hold.
  have h₂ : m / 64 < n / 64 ∨ m / 64 = n / 64 ∧ m % 64 < n % 64 := by omega
  have h₃ : m / 64 < n / 64 →
      m / 4096 < n / 4096 ∨ m / 4096 = n / 4096 ∧ m / 64 % 64 < n / 64 % 64 := by omega
  have h₄ : m / 4096 < n / 4096 →
      m / 262144 < n / 262144 ∨ m / 262144 = n / 262144 ∧ m / 4096 % 64 < n / 4096 % 64 := by omega
  have hm₈ : m / 262144 % 8 = m / 262144 := Nat.mod_eq_of_lt (by omega)
  have hn₈ : n / 262144 % 8 = n / 262144 := Nat.mod_eq_of_lt (by omega)
  unfold String.utf8EncodeChar
  simp only [← hm, ← hn]
  split_ifs
  all_goals
    simp (disch := omega) only [List.cons_append, List.nil_append, List.cons_lt_cons_iff,
      UInt8.lt_iff_toNat_lt, ← UInt8.toNat_inj, toNat_byte]
    omega

lemma flatMap_utf8EncodeChar_lt {cs ds : List Char} (h : cs < ds) :
    cs.flatMap String.utf8EncodeChar < ds.flatMap String.utf8EncodeChar := by
  induction h with
  | nil =>
    rw [List.flatMap_nil, List.flatMap_cons]
    cases hd : String.utf8EncodeChar _ with
    | nil => exact absurd hd String.utf8EncodeChar_ne_nil
    | cons b rest => exact List.nil_lt_cons _ _
  | rel h =>
    rw [List.flatMap_cons, List.flatMap_cons]
    exact utf8EncodeChar_append_lt h _ _
  | cons _ ih =>
    rw [List.flatMap_cons, List.flatMap_cons]
    exact List.append_left_lt ih

lemma bytes_lt_of_lt {a b : String} (h : a < b) : bytes a < bytes b := by
  rw [bytes_eq_flatMap, bytes_eq_flatMap]
  exact flatMap_utf8EncodeChar_lt h

end CommitStyle.Text
