import Benchtop.Text.Blank
import Benchtop.Text.Digits
import Mathlib.Algebra.Group.Nat.Defs

/-!
# Reading of what was printed

A number that was printed in hexadecimal digits is read as the number it was, letters in either case
(`readUnsigned_hexDigits`). A text that neither begins nor ends with a blank is its own trimming
(`trim_eq_self`).
-/

namespace Benchtop.Text

/-! ## Digits -/

theorem digitValue?_upperDigit : ∀ d < 16, digitValue? 16 (upperDigit d) = some d := by decide

theorem upperDigit_ne_colon : ∀ d < 16, upperDigit d ≠ ':' := by decide

theorem isBlank_upperDigit : ∀ d < 16, isBlank (upperDigit d) = false := by decide

theorem digitValue?_lowerDigit : ∀ d < 16, digitValue? 16 (lowerDigit d) = some d := by decide

theorem lowerDigit_ne_colon : ∀ d < 16, lowerDigit d ≠ ':' := by decide

theorem lowerDigit_ne_letter : ∀ d < 16, lowerDigit d ≠ 'x' ∧ lowerDigit d ≠ 'X' := by decide

theorem isBlank_lowerDigit : ∀ d < 16, isBlank (lowerDigit d) = false := by decide

/-- Every digit of a number is that of a value below 16. -/
theorem mem_hexDigits {digit : Nat → Char} {width n : Nat} {c : Char}
    (h : c ∈ hexDigits digit width n) : ∃ d < 16, c = digit d := by
  induction width generalizing n with
  | zero => cases h
  | succ width ih =>
    rcases List.mem_append.1 h with h | h
    · exact ih h
    · exact ⟨n % 16, Nat.mod_lt _ (by decide), List.mem_singleton.1 h⟩

theorem readDigits_append (base acc : Nat) (xs ys : List Char) :
    readDigits base acc (xs ++ ys) =
      (readDigits base acc xs).bind fun value => readDigits base value ys := by
  induction xs generalizing acc with
  | nil => rfl
  | cons c xs ih =>
    rw [List.cons_append, readDigits, readDigits]
    cases digitValue? base c with
    | none => rfl
    | some d => exact ih _

theorem readUnsigned_cons {c : Char} (h : c ≠ '+') (base limit : Nat) (rest : List Char) :
    readUnsigned base limit (c :: rest) =
      (readDigits base 0 (c :: rest)).filter (· ≤ limit) := by
  unfold readUnsigned
  split
  · next he =>
    cases he
    exact absurd rfl h
  · rfl

section Hexadecimal

variable {digit : Nat → Char} (hd : ∀ d < 16, digitValue? 16 (digit d) = some d)

include hd

/-- The digits of a number that has no more of them are read as the number. -/
theorem readDigits_hexDigits {width n : Nat} (hn : n < 16 ^ width) (acc : Nat) :
    readDigits 16 acc (hexDigits digit width n) = some (acc * 16 ^ width + n) := by
  induction width generalizing n with
  | zero =>
    obtain rfl : n = 0 := by simpa using hn
    simp [hexDigits, readDigits]
  | succ width ih =>
    have hdiv : n / 16 < 16 ^ width := by
      rw [Nat.div_lt_iff_lt_mul (by decide)]
      rwa [Nat.pow_succ] at hn
    rw [hexDigits, readDigits_append, ih hdiv, Option.bind_some, readDigits,
      hd _ (Nat.mod_lt _ (by decide)), Option.bind_some, readDigits, Nat.pow_succ]
    congr 1
    rw [Nat.add_mul, Nat.mul_assoc]
    omega

theorem readUnsigned_hexDigits {width n limit : Nat} (hw : 0 < width) (hn : n < 16 ^ width)
    (hl : n ≤ limit) : readUnsigned 16 limit (hexDigits digit width n) = some n := by
  have hread := readDigits_hexDigits hd hn 0
  have hlength := length_hexDigits digit width n
  have hmem := fun c => @mem_hexDigits digit width n c
  cases hdigits : hexDigits digit width n with
  | nil =>
    rw [hdigits] at hlength
    simp only [List.length_nil] at hlength
    omega
  | cons c rest =>
    rw [hdigits] at hread hmem
    -- A plus sign has no value, so it is no digit.
    have hc : c ≠ '+' := by
      rintro rfl
      obtain ⟨d, hlt, he⟩ := hmem _ List.mem_cons_self
      have hvalue := hd d hlt
      rw [← he, show digitValue? 16 '+' = none by decide] at hvalue
      cases hvalue
    rw [readUnsigned_cons hc, hread, Nat.zero_mul, Nat.zero_add, Option.filter_some,
      if_pos (decide_eq_true hl)]

end Hexadecimal

/-! ## Blanks -/

theorem dropEnd_append {p : Char → Bool} {ends : List Char} (h : ∀ c ∈ ends, p c = true)
    (text : List Char) : dropEnd p (text ++ ends) = dropEnd p text := by
  rw [dropEnd, List.reverse_append,
    List.dropWhile_append_of_pos fun c hc => h c (List.mem_reverse.1 hc)]
  rfl

theorem trim_eq_self {text : List Char} (hfirst : ∀ c ∈ text.head?, isBlank c = false)
    (hlast : ∀ c ∈ text.getLast?, isBlank c = false) : trim text = text := by
  have hdrop : ∀ {t : List Char}, (∀ c ∈ t.head?, isBlank c = false) → t.dropWhile isBlank = t := by
    intro t ht
    cases t with
    | nil => rfl
    | cons c rest => rw [List.dropWhile_cons_of_neg (by simp [ht c rfl])]
  rw [trim, hdrop hfirst, dropEnd, hdrop (by rwa [List.head?_reverse]), List.reverse_reverse]

end Benchtop.Text
