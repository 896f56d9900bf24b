import Benchtop.Text.Utf8
import Mathlib.Data.List.Basic

/-!
# Decoding of encoded text

The first byte of a character says how many bytes follow and in which range the next one is
(`leadByte_two`, `leadByte_three`, `leadByte_four`), and the ranges hold every byte of a character.

Main statement: the bytes of a text are decoded to the text (`decode_encode`), and thus every text is
one of a file (`decode?_encode`).
-/

namespace Benchtop.Text

variable {bits more n : Nat} {low high : UInt8} {rest : List UInt8}

/-! ## Bytes -/

theorem leadByte_one : ∀ n < 128, leadByte (UInt8.ofNat n) = .inl (Char.ofNat n) := by decide

theorem leadByte_two : ∀ n < 32, 2 ≤ n →
    leadByte (UInt8.ofNat (n + 192)) = .inr ⟨n, 0, 0x80, 0xBF⟩ := by decide

/-- With 0 an overlong form is left out, and with 13 the surrogates are. -/
theorem leadByte_three : ∀ n < 16, leadByte (UInt8.ofNat (n + 224)) =
    .inr ⟨n, 1, if n = 0 then 0xA0 else 0x80, if n = 13 then 0x9F else 0xBF⟩ := by decide

/-- With 0 an overlong form is left out, and with 4 what is above U+10FFFF. -/
theorem leadByte_four : ∀ n < 5, leadByte (UInt8.ofNat (n + 240)) =
    .inr ⟨n, 2, if n = 0 then 0x90 else 0x80, if n = 4 then 0x8F else 0xBF⟩ := by decide

section Continuation

variable (hn : n < 64) (hlow : low.toNat ≤ n + 128) (hhigh : n + 128 ≤ high.toNat)

include hn

theorem toNat_continuation : (UInt8.ofNat (n + 128)).toNat = n + 128 :=
  UInt8.toNat_ofNat_of_lt' (by simp only [UInt8.size]; omega)

include hlow hhigh

theorem continuation_mem_range :
    low ≤ UInt8.ofNat (n + 128) ∧ UInt8.ofNat (n + 128) ≤ high := by
  rw [UInt8.le_iff_toNat_le, UInt8.le_iff_toNat_le, toNat_continuation hn]
  exact ⟨hlow, hhigh⟩

/-- The last byte of a character. -/
theorem decodeFrom_last :
    decodeFrom (some ⟨bits, 0, low, high⟩) (UInt8.ofNat (n + 128) :: rest) =
      Char.ofNat (bits * 64 + n) :: decodeFrom none rest := by
  have hmod : (n + 128) % 64 = n := by omega
  rw [decodeFrom, if_pos (continuation_mem_range hn hlow hhigh), toNat_continuation hn, hmod]

/-- A byte of a character before its last. -/
theorem decodeFrom_next :
    decodeFrom (some ⟨bits, more + 1, low, high⟩) (UInt8.ofNat (n + 128) :: rest) =
      decodeFrom (some ⟨bits * 64 + n, more, 0x80, 0xBF⟩) rest := by
  have hmod : (n + 128) % 64 = n := by omega
  rw [decodeFrom, if_pos (continuation_mem_range hn hlow hhigh), toNat_continuation hn, hmod]

end Continuation

/-! ## Characters -/

theorem decodeFrom_encodeChar (c : Char) (rest : List UInt8) :
    decodeFrom none (String.utf8EncodeChar c ++ rest) = c :: decodeFrom none rest := by
  have hvalid : c.val.toNat < 0xD800 ∨ 0xDFFF < c.val.toNat ∧ c.val.toNat < 0x110000 := c.valid
  have hchar (m : Nat) (hm : m = c.val.toNat) : Char.ofNat m = c := hm ▸ Char.ofNat_toNat c
  unfold String.utf8EncodeChar
  extract_lets v
  change v < 0xD800 ∨ 0xDFFF < v ∧ v < 0x110000 at hvalid
  split_ifs with hone htwo hthree
  · rw [List.singleton_append, decodeFrom, leadByte_one v (by omega)]
    simp only [hchar v rfl]
  · rw [List.cons_append, decodeFrom, leadByte_two _ (by omega) (by omega)]
    simp only [List.singleton_append]
    rw [decodeFrom_last (by omega) (by simp) (by simp; omega), hchar _ (by omega)]
  · have hlow : (if v / 4096 % 16 = 0 then 0xA0 else 0x80 : UInt8).toNat ≤ v / 64 % 64 + 128 := by
      split_ifs <;> simp
      omega
    have hhigh : v / 64 % 64 + 128 ≤ (if v / 4096 % 16 = 13 then 0x9F else 0xBF : UInt8).toNat := by
      split_ifs <;> simp <;> omega
    rw [List.cons_append, decodeFrom, leadByte_three _ (by omega)]
    simp only [List.cons_append, List.nil_append]
    rw [decodeFrom_next (by omega) hlow hhigh,
      decodeFrom_last (by omega) (by simp) (by simp; omega), hchar _ (by omega)]
  · have hlow : (if v / 262144 % 8 = 0 then 0x90 else 0x80 : UInt8).toNat ≤
        v / 4096 % 64 + 128 := by
      split_ifs <;> simp
      omega
    have hhigh : v / 4096 % 64 + 128 ≤
        (if v / 262144 % 8 = 4 then 0x8F else 0xBF : UInt8).toNat := by
      split_ifs <;> simp <;> omega
    rw [List.cons_append, decodeFrom, leadByte_four _ (by omega)]
    simp only [List.cons_append, List.nil_append]
    rw [decodeFrom_next (by omega) hlow hhigh, decodeFrom_next (by omega) (by simp) (by simp; omega),
      decodeFrom_last (by omega) (by simp) (by simp; omega), hchar _ (by omega)]

/-! ## Text -/

theorem decode_encode (text : List Char) : decode (encode text) = text := by
  induction text with
  | nil => rfl
  | cons c text ih =>
    rw [decode, encode, List.flatMap_cons, decodeFrom_encodeChar]
    exact congrArg (c :: ·) ih

theorem decode?_encode (text : List Char) : decode? (encode text) = some text := by
  rw [decode?, decode_encode, if_pos rfl]

end Benchtop.Text
