import Mathlib.Data.Char
import Mathlib.Data.List.Lex
import Targeting.Operator
/-!
# The order of texts

Texts are ordered by code point. To compare the bytes of their UTF-8 encodings gives the
same order (`lex_utf8_iff`): the encodings of two characters differ before either ends, and
the one of the smaller code point has the smaller byte there.
-/

namespace Targeting.Text

/-- The bytes of a text in UTF-8. -/
def utf8 (s : String) : List UInt8 := s.toUTF8.data.toList

theorem utf8_eq_flatMap (s : String) : utf8 s = s.toList.flatMap String.utf8EncodeChar := by
  rw [utf8, String.toUTF8, ← String.utf8Encode_toList, List.utf8Encode, List.toList_data_toByteArray]

theorem byte_cons_lt {m n : ℕ} (hm : m < 256) (hn : n < 256) (xs ys : List UInt8) :
    UInt8.ofNat m :: xs < UInt8.ofNat n :: ys ↔ m < n ∨ m = n ∧ xs < ys := by
  have toNat {k : ℕ} (hk : k < 256) : (UInt8.ofNat k).toNat = k := by
    rw [UInt8.toNat_ofNat', Nat.mod_eq_of_lt hk]
  rw [List.cons_lt_cons_iff, UInt8.lt_iff_toNat_lt, ← UInt8.toNat_inj, toNat hm, toNat hn]

/-- Whatever follows them, the encodings of two characters are in the order of their code points. -/
theorem utf8EncodeChar_append_lt {c d : Char} (h : c < d) (xs ys : List UInt8) :
    String.utf8EncodeChar c ++ xs < String.utf8EncodeChar d ++ ys := by
  have hcd : c.val.toNat < d.val.toNat := h
  have hd : d.val.toNat < 0x110000 := by
    rcases d.valid with h | h <;> omega
  unfold String.utf8EncodeChar
  generalize c.val.toNat = m at *
  generalize d.val.toNat = n at *
  have h₁ : m / 64 < n / 64 ∨ m / 64 = n / 64 := by omega
  have h₂ : m / 4096 < n / 4096 ∨ m / 4096 = n / 4096 := by omega
  have h₃ : m / 262144 < n / 262144 ∨ m / 262144 = n / 262144 := by omega
  simp only
  -- of encodings of two lengths the first bytes differ; of one length, the first digits to base 64 do
  split_ifs
  all_goals
    simp (disch := omega) only [List.cons_append, List.nil_append, byte_cons_lt]
    rcases h₃ with h₃ | h₃ <;> rcases h₂ with h₂ | h₂ <;> rcases h₁ with h₁ | h₁ <;> omega

theorem flatMap_utf8EncodeChar_lt {cs ds : List Char} (h : cs < ds) :
    cs.flatMap String.utf8EncodeChar < ds.flatMap String.utf8EncodeChar := by
  induction List.lex_lt.2 h with
  | @nil d ds =>
    obtain ⟨b, bs, hd⟩ := List.exists_cons_of_ne_nil (String.utf8EncodeChar_ne_nil (c := d))
    rw [List.flatMap_nil, List.flatMap_cons, hd]
    exact List.nil_lt_cons ..
  | rel hcd =>
    rw [List.flatMap_cons, List.flatMap_cons]
    exact utf8EncodeChar_append_lt hcd _ _
  | cons hlex ih =>
    rw [List.flatMap_cons, List.flatMap_cons]
    exact List.append_left_lt (ih (List.lex_lt.1 hlex))

variable {s t : String}

theorem lex_codePoints_iff : List.Lex (fun c d : Char => c.toNat < d.toNat) s.toList t.toList ↔ s < t :=
  List.lex_lt

theorem lex_utf8_iff : List.Lex (· < ·) (utf8 s) (utf8 t) ↔ s < t := by
  rw [List.lex_lt, utf8_eq_flatMap, utf8_eq_flatMap]
  refine ⟨fun h => ?_, flatMap_utf8EncodeChar_lt⟩
  rcases lt_trichotomy s.toList t.toList with hlt | heq | hgt
  · exact hlt
  · rw [heq] at h
    exact absurd h (List.lt_irrefl _)
  · exact absurd h (List.lt_asymm (flatMap_utf8EncodeChar_lt hgt))

end Targeting.Text
