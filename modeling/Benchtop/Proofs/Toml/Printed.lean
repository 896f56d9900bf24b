import Benchtop.Proofs.Text.Reading
import Benchtop.Toml.Reader
import Mathlib.Data.List.Basic
import Mathlib.Data.List.TakeDrop

/-!
# Reading of printed entries

A run of characters of one kind is cut at the first other one (`span_append`). So a bare key is read up
to the space behind it, and a number or word up to the end of its line.

Main statements: a bare key, an equals sign and a number or word are read as they are meant
(`readEntry_printed`), and the digits of a number as the number (`scalar?_toDigits`).
-/

namespace Benchtop.Toml

open Text

/-! ## Runs -/

theorem span_append {p : Char → Bool} {run rest : List Char} (hrun : ∀ c ∈ run, p c = true)
    (hrest : ∀ c ∈ rest.head?, p c = false) : (run ++ rest).span p = (run, rest) := by
  rw [List.span_eq_takeWhile_dropWhile, List.takeWhile_append_of_pos hrun,
    List.dropWhile_append_of_pos hrun]
  cases rest with
  | nil => simp
  | cons c rest => simp [hrest c rfl]

theorem skipSpace_of_head {input : List Char} (h : ∀ c ∈ input.head?, isSpace c = false) :
    skipSpace input = input := by
  cases input with
  | nil => rfl
  | cons c rest => rw [skipSpace, List.dropWhile_cons_of_neg (by simp [h c rfl])]

/-! ## Keys -/

/-- The name of a bare key. -/
def IsBareName (name : String) : Prop :=
  name.toList ≠ [] ∧ name.toList.all isBareKeyChar

instance (name : String) : Decidable (IsBareName name) :=
  inferInstanceAs (Decidable (_ ∧ _))

theorem IsBareName.forall_mem {name : String} (h : IsBareName name) :
    ∀ c ∈ name.toList, isBareKeyChar c = true := List.all_eq_true.1 h.2

theorem IsBareName.exists_cons {name : String} (h : IsBareName name) :
    ∃ c rest, name.toList = c :: rest ∧ isBareKeyChar c = true := by
  obtain ⟨c, rest, hname⟩ := List.exists_cons_of_ne_nil h.1
  exact ⟨c, rest, hname, h.forall_mem c (hname ▸ List.mem_cons_self)⟩

/-- Signs that begin something else than a bare key. -/
theorem ne_of_isBareKeyChar {c d : Char} (h : isBareKeyChar c = true)
    (hd : isBareKeyChar d = false) : c ≠ d := by
  rintro rfl
  rw [h] at hd
  cases hd

theorem isSpace_of_isBareKeyChar {c : Char} (h : isBareKeyChar c = true) : isSpace c = false := by
  have hblank : c ≠ ' ' := ne_of_isBareKeyChar h (by decide)
  have htab : c ≠ '\t' := ne_of_isBareKeyChar h (by decide)
  simp [isSpace, hblank, htab]

theorem readKeyPart_bare {name : String} (h : IsBareName name) {rest : List Char}
    (hrest : ∀ c ∈ rest.head?, isBareKeyChar c = false) :
    readKeyPart (name.toList ++ rest) = some (name, rest) := by
  obtain ⟨c, cs, hname, hc⟩ := h.exists_cons
  unfold readKeyPart
  split
  · next heq =>
    rw [hname] at heq
    exact absurd (List.cons.inj heq).1 (ne_of_isBareKeyChar hc (by decide))
  · next heq =>
    rw [hname] at heq
    exact absurd (List.cons.inj heq).1 (ne_of_isBareKeyChar hc (by decide))
  · rw [span_append h.forall_mem hrest]
    simp [h.1]

theorem skipSpace_bare {name : String} (h : IsBareName name) (rest : List Char) :
    skipSpace (name.toList ++ rest) = name.toList ++ rest := by
  obtain ⟨c, cs, hname, hc⟩ := h.exists_cons
  refine skipSpace_of_head fun d hd => ?_
  rw [hname] at hd
  cases hd
  exact isSpace_of_isBareKeyChar hc

theorem readKey_bare {name : String} (h : IsBareName name) (rest : List Char) :
    readKey (name.toList ++ ' ' :: '=' :: rest) = some ([name], '=' :: rest) := by
  rw [readKey, readKeyParts, skipSpace_bare h, readKeyPart_bare h (by simp; decide)]
  rfl

/-! ## Numbers and words -/

/-- Signs that begin something else than a number or word. -/
theorem ne_of_isScalarChar {c d : Char} (h : isScalarChar c = true)
    (hd : isScalarChar d = false) : c ≠ d := by
  rintro rfl
  rw [h] at hd
  cases hd

theorem isSpace_of_isScalarChar {c : Char} (h : isScalarChar c = true) : isSpace c = false := by
  have hblank : c ≠ ' ' := ne_of_isScalarChar h (by decide)
  have htab : c ≠ '\t' := ne_of_isScalarChar h (by decide)
  simp [isSpace, hblank, htab]

theorem readFlat_scalar {c : Char} (hc : isScalarChar c = true) (rest : List Char) :
    readFlat (c :: rest) = readScalar (c :: rest) := by
  unfold readFlat
  split
  · next heq => exact absurd (List.cons.inj heq).1 (ne_of_isScalarChar hc (by decide))
  · next heq => exact absurd (List.cons.inj heq).1 (ne_of_isScalarChar hc (by decide))
  · rfl

theorem readValue_scalar {c : Char} (hc : isScalarChar c = true) (depth : Nat) (rest : List Char) :
    readValue depth (c :: rest) = readScalar (c :: rest) := by
  cases depth with
  | zero => exact readFlat_scalar hc rest
  | succ depth =>
    unfold readValue
    split
    · next heq => exact absurd (List.cons.inj heq).1 (ne_of_isScalarChar hc (by decide))
    · next heq => exact absurd (List.cons.inj heq).1 (ne_of_isScalarChar hc (by decide))
    · exact readFlat_scalar hc rest

theorem readScalar_printed {text : List Char} {node : Node} (hall : ∀ c ∈ text, isScalarChar c = true)
    (hnode : scalar? text = some node) (rest : List Char) :
    readScalar (text ++ '\n' :: rest) = some (node, '\n' :: rest) := by
  rw [readScalar, span_append hall (by simp; decide)]
  simp [hnode]

/-- A bare key, an equals sign and a number or word, up to the end of the line. -/
theorem readEntry_printed {name : String} (h : IsBareName name) {text : List Char} {node : Node}
    (hne : text ≠ []) (hall : ∀ c ∈ text, isScalarChar c = true) (hnode : scalar? text = some node)
    (depth : Nat) (rest : List Char) :
    readEntry (readValue depth) (name.toList ++ ' ' :: '=' :: ' ' :: (text ++ '\n' :: rest)) =
      some ([name], node, '\n' :: rest) := by
  obtain ⟨c, cs, rfl⟩ := List.exists_cons_of_ne_nil hne
  have hc : isScalarChar c = true := hall c List.mem_cons_self
  have hskip : skipSpace (' ' :: (c :: cs ++ '\n' :: rest)) = c :: cs ++ '\n' :: rest := by
    rw [skipSpace, List.dropWhile_cons_of_pos rfl]
    refine skipSpace_of_head fun d hd => ?_
    cases hd
    exact isSpace_of_isScalarChar hc
  rw [readEntry, readKey_bare h]
  simp only [Option.bind_eq_bind, Option.bind_some, hskip]
  rw [List.cons_append, readValue_scalar hc, ← List.cons_append, readScalar_printed hall hnode]
  rfl

/-! ## Digits -/

section Digits

variable {text : List Char} (hdigits : ∀ c ∈ text, c.isDigit = true)

include hdigits

theorem not_mem_of_isDigit {c : Char} (hc : c.isDigit = false) : c ∉ text := by
  intro h
  rw [hdigits c h] at hc
  cases hc

theorem isScalarChar_of_isDigit : ∀ c ∈ text, isScalarChar c = true := fun c hc => by
  simp [isScalarChar, Char.isAlphanum, hdigits c hc]

theorem readDigits_digits (acc : Nat) :
    readDigits 10 acc text = some (Nat.ofDigitChars 10 text acc) := by
  induction text generalizing acc with
  | nil => rfl
  | cons c text ih =>
    obtain ⟨hc, htext⟩ := List.forall_mem_cons.1 hdigits
    have hrange : '0' ≤ c ∧ c ≤ '9' := by
      rw [Char.isDigit, Bool.and_eq_true, decide_eq_true_eq, decide_eq_true_eq] at hc
      exact hc
    have hlt : c.toNat - 48 < 10 := by
      have : c.toNat ≤ 57 := UInt32.le_iff_toNat_le.1 hrange.2
      omega
    have hvalue : digitValue? 10 c = some (c.toNat - 48) := by
      rw [digitValue?, if_pos hrange, Option.filter_some, if_pos (decide_eq_true hlt)]
    rw [readDigits, hvalue, Option.bind_some, ih htext, Nat.ofDigitChars_cons, Nat.mul_comm]
    rfl

theorem ungroup_digits (hne : text ≠ []) : ungroup Char.isDigit text = some text := by
  induction text with
  | nil => exact absurd rfl hne
  | cons c text ih =>
    obtain ⟨hc, htext⟩ := List.forall_mem_cons.1 hdigits
    cases text with
    | nil => simp [ungroup, hc]
    | cons d text =>
      have hd : d ≠ '_' := fun he =>
        not_mem_of_isDigit htext (c := '_') (by decide) (he ▸ List.mem_cons_self)
      rw [ungroup, if_pos hc, ih htext (List.cons_ne_nil _ _)]
      · rfl
      · exact List.cons_ne_nil _ _
      · exact fun rest he => hd (List.cons.inj he).1

theorem isDate_digits : isDate text = false := by
  unfold isDate
  split
  · exact absurd (by simp) (not_mem_of_isDigit hdigits (c := '-') (by decide))
  · rfl

theorem isTime_digits (zoned : Bool) : isTime zoned text = false := by
  unfold isTime
  split
  · exact absurd (by simp) (not_mem_of_isDigit hdigits (c := ':') (by decide))
  · rfl

theorem isDateTime_digits : isDateTime text = false := by
  rw [isDateTime, isDate_digits hdigits, isTime_digits hdigits,
    isDate_digits fun c hc => hdigits c (List.mem_of_mem_take hc)]
  rfl

theorem splitSign_digits : splitSign text = (false, text) := by
  unfold splitSign
  split
  · exact absurd (by simp) (not_mem_of_isDigit hdigits (c := '+') (by decide))
  · exact absurd (by simp) (not_mem_of_isDigit hdigits (c := '-') (by decide))
  · rfl

theorem isFloat_digits : isFloat text = false := by
  have hinf : text ≠ ['i', 'n', 'f'] := by
    rintro rfl
    exact absurd (by simp) (not_mem_of_isDigit hdigits (c := 'i') (by decide))
  have hnan : text ≠ ['n', 'a', 'n'] := by
    rintro rfl
    exact absurd (by simp) (not_mem_of_isDigit hdigits (c := 'n') (by decide))
  have hkind : ∀ c ∈ text, (c != '.' && !startsExponent c) = true := by
    intro c hc
    have hne (d : Char) (hd : d.isDigit = false) : c ≠ d := fun he =>
      not_mem_of_isDigit hdigits hd (he ▸ hc)
    simp [startsExponent, hne '.' (by decide), hne 'e' (by decide), hne 'E' (by decide)]
  have hnone : ∀ c ∈ ([] : List Char).head?, (c != '.' && !startsExponent c) = false := nofun
  have hspan := span_append hkind hnone
  rw [List.append_nil, List.span_eq_takeWhile_dropWhile, Prod.mk.injEq] at hspan
  simp [isFloat, splitSign_digits hdigits, hinf, hnan, hspan, exponent?]

/-- Digits with no needless zero are an integer, if it has 64 bits. -/
theorem scalar?_digits (hne : text ≠ []) (hzero : ∀ d rest, text ≠ '0' :: d :: rest)
    (hlimit : Nat.ofDigitChars 10 text 0 ≤ Int64.size / 2 - 1) :
    scalar? text = some (.integer (Nat.ofDigitChars 10 text 0)) := by
  have htrue : text ≠ ['t', 'r', 'u', 'e'] := by
    rintro rfl
    exact absurd (by simp) (not_mem_of_isDigit hdigits (c := 't') (by decide))
  have hfalse : text ≠ ['f', 'a', 'l', 's', 'e'] := by
    rintro rfl
    exact absurd (by simp) (not_mem_of_isDigit hdigits (c := 'f') (by decide))
  have hplain : plainDigits text = some text := by
    unfold plainDigits
    rw [ungroup_digits hdigits hne]
    split
    · next d rest he => exact absurd (Option.some.inj he) (hzero d rest)
    · rfl
  have hread : readUnsigned 10 (Int64.size / 2 - 1) text = some (Nat.ofDigitChars 10 text 0) := by
    obtain ⟨c, rest, rfl⟩ := List.exists_cons_of_ne_nil hne
    have hplus : c ≠ '+' := fun he =>
      not_mem_of_isDigit hdigits (c := '+') (by decide) (he ▸ List.mem_cons_self)
    rw [readUnsigned_cons hplus, readDigits_digits hdigits, Option.filter_some,
      if_pos (decide_eq_true hlimit)]
  have hinteger : integer? text = some (Nat.ofDigitChars 10 text 0 : Int) := by
    unfold integer?
    split
    · exact absurd (by simp) (not_mem_of_isDigit hdigits (c := 'x') (by decide))
    · exact absurd (by simp) (not_mem_of_isDigit hdigits (c := 'o') (by decide))
    · exact absurd (by simp) (not_mem_of_isDigit hdigits (c := 'b') (by decide))
    · simp [splitSign_digits hdigits, hplain, hread]
  rw [scalar?, isDateTime_digits hdigits, isFloat_digits hdigits, hinteger]
  simp [htrue, hfalse]

end Digits

theorem digitChar_ne_zero : ∀ n < 10, 0 < n → Nat.digitChar n ≠ '0' := by decide

theorem head?_toDigits {n : Nat} (hn : 0 < n) : (Nat.toDigits 10 n).head? ≠ some '0' := by
  induction n using Nat.strongRecOn with
  | _ n ih =>
    by_cases hlt : n < 10
    · rw [Nat.toDigits_of_lt_base hlt]
      exact fun he => digitChar_ne_zero n hlt hn (Option.some.inj he)
    · rw [Nat.toDigits_of_base_le (by decide) (Nat.le_of_not_lt hlt),
        List.head?_append_of_ne_nil _ Nat.toDigits_ne_nil]
      exact ih _ (by omega) (by omega)

/-- The digits of a number are read as the number. -/
theorem scalar?_toDigits {n : Nat} (hn : n ≤ Int64.size / 2 - 1) :
    scalar? (Nat.toDigits 10 n) = some (.integer n) := by
  have hdigits : ∀ c ∈ Nat.toDigits 10 n, c.isDigit = true := fun c hc =>
    Nat.isDigit_of_mem_toDigits (by decide) (by decide) hc
  have hzero : ∀ d rest, Nat.toDigits 10 n ≠ '0' :: d :: rest := by
    intro d rest he
    rcases Nat.eq_zero_or_pos n with rfl | hpos
    · rw [Nat.toDigits_zero] at he
      cases he
    · exact head?_toDigits hpos (he ▸ rfl)
  have hread := scalar?_digits hdigits Nat.toDigits_ne_nil hzero
  rw [Nat.ofDigitChars_ten_toDigits] at hread
  exact hread hn

end Benchtop.Toml
