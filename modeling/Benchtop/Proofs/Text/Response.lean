import Benchtop.Proofs.Text.Reading
import Benchtop.Proofs.Text.Utf8
import Benchtop.Text.Response
import Mathlib.Data.List.DropRight

/-!
# Line ends of an answer

No character of several bytes has a byte below 0x80 after its first (`Begun.IsLong`), so such a byte
always ends what was begun before it and is a character of its own: bytes below 0x80 after a byte
string are decoded to their characters after its text, also where it ends inside a character
(`decode_append_ascii`).

Main statement: the text of an answer is what is left of it when the line ends at its end are
removed, and nothing else is lost (`responseText_lineEnds`).
-/

namespace Benchtop.Text

variable {b : UInt8} {p : Begun} {begun : Option Begun}

/-! ## Bytes of one character -/

theorem leadByte_of_lt (hb : b < 0x80) : leadByte b = .inl (Char.ofNat b.toNat) := if_pos hb

/-- No byte below 0x80 continues the character. -/
def Begun.IsLong (p : Begun) : Prop := 0x80 ≤ p.low

theorem isLong_of_leadByte (h : leadByte b = .inr p) : p.IsLong := by
  unfold leadByte at h
  split_ifs at h
  all_goals
    cases h
    simp only [Begun.IsLong]
    decide

theorem forall_isLong_none : ∀ p ∈ (none : Option Begun), p.IsLong := by simp

theorem Begun.IsLong.forall_some (h : p.IsLong) : ∀ q ∈ some p, q.IsLong := by simpa using h

/-- A byte below 0x80 is decoded to its character, whatever was begun before it. -/
theorem decodeFrom_cons_ascii (hlong : ∀ p ∈ begun, p.IsLong) (hb : b < 0x80)
    (rest : List UInt8) :
    decodeFrom begun (b :: rest) = decodeFrom begun [] ++ Char.ofNat b.toNat :: decode rest := by
  cases begun with
  | none => simp only [decodeFrom, leadByte_of_lt hb, List.nil_append, decode]
  | some p =>
    have hlow : ¬ (p.low ≤ b ∧ b ≤ p.high) := fun h =>
      absurd (UInt8.lt_of_lt_of_le hb (hlong p rfl)) (UInt8.not_lt.2 h.1)
    simp only [decodeFrom, if_neg hlow, leadByte_of_lt hb, List.singleton_append, decode]

theorem decodeFrom_append_cons_ascii (hlong : ∀ p ∈ begun, p.IsLong) (hb : b < 0x80)
    (bytes rest : List UInt8) :
    decodeFrom begun (bytes ++ b :: rest) =
      decodeFrom begun bytes ++ Char.ofNat b.toNat :: decode rest := by
  fun_induction decodeFrom begun bytes with
  | case1 => exact decodeFrom_cons_ascii hlong hb rest
  | case2 p => exact decodeFrom_cons_ascii hlong hb rest
  | case3 d bytes c hd ih =>
    simp only [List.cons_append, decodeFrom, hd, ih forall_isLong_none]
  | case4 d bytes q hd ih =>
    simp only [List.cons_append, decodeFrom, hd]
    exact ih (isLong_of_leadByte hd).forall_some
  | case5 p d bytes hrange bits hmore ih =>
    simp only [List.cons_append, decodeFrom, if_pos hrange, hmore, ih forall_isLong_none]
    rfl
  | case6 p d bytes hrange bits more hmore ih =>
    simp only [List.cons_append, decodeFrom, if_pos hrange, hmore]
    -- The bytes after the second one are of the whole range.
    have hlong : (⟨bits, more, 0x80, 0xBF⟩ : Begun).IsLong := UInt8.le_refl _
    exact ih hlong.forall_some
  | case7 p d bytes hrange c hd ih =>
    simp only [List.cons_append, decodeFrom, if_neg hrange, hd, ih forall_isLong_none]
  | case8 p d bytes hrange q hd ih =>
    simp only [List.cons_append, decodeFrom, if_neg hrange, hd]
    exact congrArg _ (ih (isLong_of_leadByte hd).forall_some)

/-! ## Text -/

/-- Bytes below 0x80 add their characters to the text, whatever is before them. -/
theorem decode_append_ascii (bytes : List UInt8) {ascii : List UInt8} (h : ∀ b ∈ ascii, b < 0x80) :
    decode (bytes ++ ascii) = decode bytes ++ ascii.map fun b => Char.ofNat b.toNat := by
  induction ascii generalizing bytes with
  | nil => simp
  | cons b ascii ih =>
    obtain ⟨hb, h⟩ := List.forall_mem_cons.1 h
    rw [decode, decodeFrom_append_cons_ascii forall_isLong_none hb, ← List.nil_append ascii, ih [] h]
    rfl

/-- The text of an answer lacks only line ends of what its bytes say. -/
theorem exists_decode_eq (answer : List UInt8) :
    ∃ ends, (∀ c ∈ ends, c = '\r' ∨ c = '\n') ∧ decode answer = responseText answer ++ ends := by
  refine ⟨(decode answer).rtakeWhile isLineEnd, fun c hc => ?_,
    (List.rdropWhile_append_rtakeWhile ..).symm⟩
  simpa [isLineEnd] using List.mem_rtakeWhile_imp hc

theorem not_isLineEnd_getLast {answer : List UInt8} {c : Char}
    (h : c ∈ (responseText answer).getLast?) : isLineEnd c = false := by
  obtain ⟨hne, rfl⟩ := List.mem_getLast?_eq_getLast h
  exact Bool.eq_false_iff.2 (List.rdropWhile_last_not isLineEnd (decode answer) hne)

theorem responseText_encode_responseText (answer : List UInt8) :
    responseText (encode (responseText answer)) = responseText answer := by
  rw [responseText, decode_encode]
  exact List.rdropWhile_idempotent isLineEnd (decode answer)

theorem responseText_append (answer : List UInt8) {ends : List UInt8}
    (h : ∀ b ∈ ends, b = 0x0D ∨ b = 0x0A) :
    responseText (answer ++ ends) = responseText answer := by
  have hascii : ∀ b ∈ ends, b < 0x80 := fun b hb => by
    rcases h b hb with rfl | rfl <;> decide
  have hends : ∀ c ∈ ends.map fun b => Char.ofNat b.toNat, isLineEnd c = true := by
    intro c hc
    obtain ⟨b, hb, rfl⟩ := List.mem_map.1 hc
    rcases h b hb with rfl | rfl <;> decide
  rw [responseText, decode_append_ascii answer hascii, dropEnd_append hends]
  rfl

/-- The text of an answer ends in no line end and is its own text as an answer. Line ends after the
answer do not change it, whatever bytes are before them, and what the answer's bytes say is the text
and some line ends; for the bytes of a text that is the text itself. -/
theorem responseText_lineEnds (answer : List UInt8) :
    (∀ c ∈ (responseText answer).getLast?, c ≠ '\r' ∧ c ≠ '\n') ∧
      responseText (encode (responseText answer)) = responseText answer ∧
      (∀ ends : List UInt8, (∀ b ∈ ends, b = 0x0D ∨ b = 0x0A) →
        responseText (answer ++ ends) = responseText answer) ∧
      (∃ ends, (∀ c ∈ ends, c = '\r' ∨ c = '\n') ∧ decode answer = responseText answer ++ ends) ∧
      ∀ text, answer = encode text →
        ∃ ends, (∀ c ∈ ends, c = '\r' ∨ c = '\n') ∧ text = responseText answer ++ ends := by
  refine ⟨fun c hc => ?_, responseText_encode_responseText answer,
    fun ends => responseText_append answer, exists_decode_eq answer, ?_⟩
  · simpa [isLineEnd] using not_isLineEnd_getLast hc
  · rintro text rfl
    obtain ⟨ends, hends, h⟩ := exists_decode_eq (encode text)
    exact ⟨ends, hends, by rw [← h, decode_encode]⟩

/-- A character that was begun ends where the line ends after it begin. -/
example : responseText [0x56, 0xE2, 0x82, 0x0D, 0x0A] = ['V', replacement] := by decide

end Benchtop.Text
