import Benchtop.Proofs.Text.Reading
import Mathlib.Data.List.DropRight
import Mathlib.Data.Nat.Digits.Defs
import Mathlib.Tactic.Ring

/-!
# What is read from a text

The readers of texts are functions that take a text apart. Here the same is said of the texts: which
text is another one with blanks around it (`Trims`), and which one is a numeral of a number
(`Numeral`). The readers decide just that.

Main statements: trimming removes the blanks at both ends and nothing else (`trim_eq_iff`), and a number
is read from its numerals and from nothing else (`readUnsigned_eq_some_iff`).
-/

namespace Benchtop.Text

variable {text core : List Char} {base limit acc value : Nat}

/-! ## Blanks -/

/-- The text is the core with blanks around it, and the core neither begins nor ends with one. -/
structure Trims (text core : List Char) : Prop where
  around : ∃ before after, text = before ++ core ++ after ∧
    (∀ c ∈ before, isBlank c = true) ∧ ∀ c ∈ after, isBlank c = true
  first : ∀ c ∈ core.head?, isBlank c = false
  last : ∀ c ∈ core.getLast?, isBlank c = false

theorem trims_trim (text : List Char) : Trims text (trim text) := by
  have hend : trim text ++ (text.dropWhile isBlank).rtakeWhile isBlank = text.dropWhile isBlank :=
    List.rdropWhile_append_rtakeWhile ..
  refine ⟨⟨text.takeWhile isBlank, (text.dropWhile isBlank).rtakeWhile isBlank, ?_,
    fun c => List.mem_takeWhile_imp, fun c => List.mem_rtakeWhile_imp⟩, fun c hc => ?_, fun c hc => ?_⟩
  · rw [List.append_assoc, hend, List.takeWhile_append_dropWhile]
  · have hfirst := List.head?_dropWhile_not isBlank text
    rwa [← hend, List.head?_append, Option.mem_def.1 hc] at hfirst
  · obtain ⟨hne, rfl⟩ := List.mem_getLast?_eq_getLast hc
    exact Bool.eq_false_iff.2 (List.rdropWhile_last_not isBlank _ hne)

theorem trim_eq_iff : trim text = core ↔ Trims text core := by
  refine ⟨fun h => h ▸ trims_trim text, fun ⟨⟨before, after, he, hbefore, hafter⟩, hfirst, hlast⟩ => ?_⟩
  rw [trim, he, List.append_assoc, List.dropWhile_append_of_pos hbefore, ← trim]
  cases core with
  | nil =>
    rw [List.nil_append, trim, List.dropWhile_eq_nil_iff.2 hafter]
    rfl
  | cons c core =>
    rw [trim, List.cons_append, List.dropWhile_cons_of_neg (by simp [hfirst c rfl]),
      ← List.cons_append, dropEnd_append hafter]
    refine List.rdropWhile_eq_self_iff.2 fun hne => ?_
    rw [hlast _ (List.getLast?_eq_getLast_of_ne_nil hne)]
    exact Bool.false_ne_true

/-! ## Numerals -/

/-- A digit of a value below the base, a letter in either case. -/
def IsDigit (base d : Nat) (c : Char) : Prop := d < base ∧ (c = lowerDigit d ∨ c = upperDigit d)

/-- Digits, at least one, and their value in the base: the first one is worth most, and zeros may stand
before it. -/
def Digits (base value : Nat) (text : List Char) : Prop :=
  text ≠ [] ∧ ∃ values, List.Forall₂ (IsDigit base) values text ∧
    value = Nat.ofDigits base values.reverse

/-- Digits, and perhaps a plus sign before them. -/
def Numeral (base value : Nat) (text : List Char) : Prop :=
  Digits base value text ∨ ∃ digits, text = '+' :: digits ∧ Digits base value digits

theorem isDigit_of_digitValue? {c : Char} {d : Nat} (h : digitValue? base c = some d) :
    IsDigit base d c := by
  obtain ⟨hvalue, hd⟩ := Option.filter_eq_some_iff.1 h
  refine ⟨of_decide_eq_true hd, ?_⟩
  split_ifs at hvalue with hdecimal hlower hupper
  · right
    cases hvalue
    have hle : '0'.toNat ≤ c.toNat ∧ c.toNat ≤ '9'.toNat := hdecimal
    simp at hle
    rw [upperDigit, if_pos (by omega), Nat.add_sub_cancel' (by omega), Char.ofNat_toNat]
  · left
    cases hvalue
    have hle : 'a'.toNat ≤ c.toNat ∧ c.toNat ≤ 'f'.toNat := hlower
    simp at hle
    rw [lowerDigit, if_neg (by omega), Nat.add_sub_cancel' (by omega), Char.ofNat_toNat]
  · right
    cases hvalue
    have hle : 'A'.toNat ≤ c.toNat ∧ c.toNat ≤ 'F'.toNat := hupper
    simp at hle
    rw [upperDigit, if_neg (by omega), Nat.add_sub_cancel' (by omega), Char.ofNat_toNat]

theorem digitValue?_eq_some_iff (hbase : base ≤ 16) {c : Char} {d : Nat} :
    digitValue? base c = some d ↔ IsDigit base d c := by
  refine ⟨isDigit_of_digitValue?, fun ⟨hd, hc⟩ => ?_⟩
  have hsixteen : digitValue? 16 c = some d := by
    rcases hc with rfl | rfl
    · exact digitValue?_lowerDigit d (by omega)
    · exact digitValue?_upperDigit d (by omega)
  exact Option.filter_eq_some_iff.2
    ⟨(Option.filter_eq_some_iff.1 hsixteen).1, decide_eq_true hd⟩

theorem readDigits_eq_some_iff (hbase : base ≤ 16) :
    readDigits base acc text = some value ↔ ∃ values, List.Forall₂ (IsDigit base) values text ∧
      value = acc * base ^ values.length + Nat.ofDigits base values.reverse := by
  induction text generalizing acc with
  | nil =>
    rw [readDigits, Option.some_inj]
    refine ⟨fun h => ⟨[], .nil, by simp [h]⟩, ?_⟩
    rintro ⟨values, hvalues, rfl⟩
    cases hvalues
    simp
  | cons c text ih =>
    have hstep (d : Nat) (values : List Nat) :
        (acc * base + d) * base ^ values.length + Nat.ofDigits base values.reverse =
          acc * base ^ (d :: values).length + Nat.ofDigits base (d :: values).reverse := by
      rw [List.reverse_cons, Nat.ofDigits_append, Nat.ofDigits_singleton, List.length_reverse,
        List.length_cons, Nat.pow_succ]
      ring
    rw [readDigits, Option.bind_eq_some_iff]
    constructor
    · rintro ⟨d, hd, hread⟩
      obtain ⟨values, hvalues, rfl⟩ := ih.1 hread
      exact ⟨d :: values, .cons ((digitValue?_eq_some_iff hbase).1 hd) hvalues, hstep d values⟩
    · rintro ⟨values, hvalues, rfl⟩
      cases hvalues with
      | @cons d _ values _ hd hvalues =>
        exact ⟨d, (digitValue?_eq_some_iff hbase).2 hd, ih.2 ⟨values, hvalues, (hstep d values).symm⟩⟩

theorem not_digits_plus (hbase : base ≤ 16) : ¬ Digits base value ('+' :: text) := by
  rintro ⟨-, values, hvalues, -⟩
  obtain _ | ⟨⟨hd, hplus⟩, -⟩ := hvalues
  have hdigit : ∀ d < 16, ¬ ('+' = lowerDigit d ∨ '+' = upperDigit d) := by decide
  exact hdigit _ (Nat.lt_of_lt_of_le hd hbase) hplus

/-- What the reader does after a plus sign, or where there is none. -/
theorem filter_readDigits_eq_some_iff (hbase : base ≤ 16) :
    (if text = [] then none else (readDigits base 0 text).filter (· ≤ limit)) = some value ↔
      Digits base value text ∧ value ≤ limit := by
  split_ifs with h
  · exact iff_of_false nofun fun hd => hd.1.1 h
  · simp only [Digits, Option.filter_eq_some_iff, readDigits_eq_some_iff hbase, decide_eq_true_eq,
      Nat.zero_mul, Nat.zero_add, ne_eq, h, not_false_eq_true, true_and]

theorem readUnsigned_plus (base limit : Nat) (text : List Char) :
    readUnsigned base limit ('+' :: text) =
      if text = [] then none else (readDigits base 0 text).filter (· ≤ limit) := by
  cases text <;> rfl

/-- A number is read from its numerals, if it is not above the limit, and from nothing else. -/
theorem readUnsigned_eq_some_iff (hbase : base ≤ 16) :
    readUnsigned base limit text = some value ↔ Numeral base value text ∧ value ≤ limit := by
  cases text with
  | nil => simp [readUnsigned, Numeral, Digits]
  | cons c text =>
    by_cases hc : c = '+'
    · subst hc
      rw [readUnsigned_plus, filter_readDigits_eq_some_iff hbase, Numeral,
        or_iff_right (not_digits_plus hbase)]
      simp
    · rw [readUnsigned_cons hc, Numeral, or_iff_left (by simp [hc]),
        ← filter_readDigits_eq_some_iff hbase, if_neg (List.cons_ne_nil c text)]

end Benchtop.Text
