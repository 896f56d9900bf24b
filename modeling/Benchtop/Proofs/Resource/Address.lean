import Benchtop.Proofs.Text.Reading
import Benchtop.Resource.Basic
import Mathlib.Data.List.Infix

/-!
# Addresses that are read as they were printed

The reader of addresses takes a text apart at the pairs of colons in it, from the left. The parts that
an address is printed from come out again as long as none of them brings a pair of its own, or makes
one with what follows it (`splitAtPairs_append_pair`). Only a serial number can do that: one with two
colons in a row, or with a colon at its end. The reader also refuses an empty serial number, which
would stand between two pairs.

Main statement: the printed form of an address is read as that address if its serial number is none of
these, and is refused otherwise. It is never read as another address (`Address.parse_toText_exact`), and
never taken for the shorthand (`Selector.parse_toText`).
-/

namespace Benchtop

open Text Usb

/-! ## Pairs of colons -/

theorem pair_prefix_cons {c : Char} {text : List Char} :
    [':', ':'] <+: c :: text ↔ c = ':' ∧ text.head? = some ':' := by
  rw [List.cons_prefix_cons]
  cases text <;> simp [eq_comm]

theorem Selector.hasPair_iff {text : List Char} : hasPair text = true ↔ [':', ':'] <:+: text := by
  fun_induction hasPair text with
  | case1 rest => simpa using (List.prefix_append [':', ':'] rest).isInfix
  | case2 c rest hne ih =>
    rw [ih, List.infix_cons_iff, pair_prefix_cons]
    refine ⟨.inr, fun h => h.resolve_left fun ⟨hc, hhead⟩ => ?_⟩
    obtain ⟨rest', rfl⟩ := List.head?_eq_some_iff.1 hhead
    exact hne rest' hc rfl
  | case3 => simp

theorem splitAtPairs_cons {c : Char} {text : List Char} (h : ¬ [':', ':'] <+: c :: text) :
    splitAtPairs (c :: text) = (splitAtPairs text).modifyHead (c :: ·) := by
  rw [splitAtPairs]
  rintro rest rfl rfl
  exact h (List.prefix_append [':', ':'] rest)

/-- A part that brings no pair, and makes none with the separator, ends at the separator. -/
theorem splitAtPairs_append_pair {part : List Char} (h : ¬ [':', ':'] <:+: part ++ [':'])
    (rest : List Char) : splitAtPairs (part ++ ':' :: ':' :: rest) = part :: splitAtPairs rest := by
  induction part with
  | nil => rfl
  | cons c part ih =>
    rw [List.cons_append, List.infix_cons_iff, not_or, pair_prefix_cons] at h
    have hprefix : ¬ [':', ':'] <+: c :: (part ++ ':' :: ':' :: rest) := by
      rw [pair_prefix_cons]
      cases part <;> exact h.1
    rw [List.cons_append, splitAtPairs_cons hprefix, ih h.2]
    rfl

theorem splitAtPairs_eq_singleton {text : List Char} (h : ¬ [':', ':'] <:+: text) :
    splitAtPairs text = [text] := by
  induction text with
  | nil => rfl
  | cons c text ih =>
    rw [List.infix_cons_iff, not_or] at h
    rw [splitAtPairs_cons h.1, ih h.2]
    rfl

/-- A text with a pair is cut at the first one. -/
theorem exists_append_of_pair {text : List Char} (h : [':', ':'] <:+: text) :
    ∃ part rest, text = part ++ ':' :: ':' :: rest ∧ ¬ [':', ':'] <:+: part ++ [':'] := by
  induction text with
  | nil => simp at h
  | cons c text ih =>
    by_cases hp : [':', ':'] <+: c :: text
    · obtain ⟨rest, hrest⟩ := hp
      exact ⟨[], rest, hrest.symm, by decide⟩
    · obtain ⟨part, rest, rfl, hpart⟩ := ih ((List.infix_cons_iff.1 h).resolve_left hp)
      refine ⟨c :: part, rest, rfl, ?_⟩
      rw [List.cons_append, List.infix_cons_iff, not_or, pair_prefix_cons]
      rw [pair_prefix_cons] at hp
      exact ⟨by cases part <;> exact hp, hpart⟩

theorem splitAtPairs_ne_nil (text : List Char) : splitAtPairs text ≠ [] := by
  by_cases h : [':', ':'] <:+: text
  · obtain ⟨part, rest, rfl, hpart⟩ := exists_append_of_pair h
    simp [splitAtPairs_append_pair hpart]
  · simp [splitAtPairs_eq_singleton h]

theorem not_pair_infix_of_not_mem {part : List Char} (h : ':' ∉ part) :
    ¬ [':', ':'] <:+: part ++ [':'] := by
  intro hi
  have hcount := hi.sublist.count_le ':'
  rw [List.count_append, List.count_eq_zero.2 h] at hcount
  exact absurd hcount (by decide)

/-- A part makes a pair with a colon after it if it has a pair or ends with a colon. -/
theorem pair_infix_concat {part : List Char} :
    [':', ':'] <:+: part ++ [':'] ↔ [':', ':'] <:+: part ∨ part.getLast? = some ':' := by
  rw [List.infix_concat_iff, or_comm]
  refine or_congr_right ?_
  rw [← List.reverse_prefix, List.reverse_append, List.reverse_singleton, List.singleton_append]
  simp only [List.reverse_cons, List.reverse_nil, List.nil_append, List.singleton_append,
    List.cons_prefix_cons, true_and]
  rw [← List.head?_reverse]
  cases part.reverse <;> simp [eq_comm]

/-! ## Ids -/

/-- An id as addresses print it, in four hexadecimal digits, is read in any base. -/
theorem readId_hexWord (base : Nat) (id : UInt16) :
    readId base ('0' :: 'x' :: (hexWord id).toList) = some id := by
  have hblank : ∀ c ∈ '0' :: 'x' :: (hexWord id).toList, isBlank c = false := by
    intro c hc
    rw [hexWord, String.toList_ofList] at hc
    simp only [List.mem_cons] at hc
    obtain rfl | rfl | hc := hc
    · decide
    · decide
    · obtain ⟨d, hd, rfl⟩ := mem_hexDigits hc
      exact isBlank_upperDigit d hd
  have hlt : id.toNat < 16 ^ 4 := id.toNat_lt
  have hread : readUnsigned 16 65535 (hexWord id).toList = some id.toNat := by
    rw [hexWord, String.toList_ofList]
    exact readUnsigned_hexDigits digitValue?_upperDigit (by decide) hlt (Nat.le_pred_of_lt hlt)
  rw [readId, trim_eq_self (fun c hc => hblank c (List.mem_of_mem_head? hc))
    (fun c hc => hblank c (List.mem_of_mem_getLast? hc))]
  simp [hread]

theorem colon_not_mem_hexWord (id : UInt16) : ':' ∉ (hexWord id).toList := by
  rw [hexWord, String.toList_ofList]
  intro h
  obtain ⟨d, hd, he⟩ := mem_hexDigits h
  exact upperDigit_ne_colon d hd he.symm

/-! ## Addresses -/

namespace Address

/-- The serial number, if there is one, is such that the reader can tell it from what stands around
it: it is not empty, it has no two colons in a row, and none at its end. -/
def Readable (a : Address) : Prop :=
  ∀ serial ∈ a.serial,
    serial ≠ "" ∧ ¬ [':', ':'] <:+: serial.toList ∧ serial.toList.getLast? ≠ some ':'

instance (a : Address) : Decidable a.Readable :=
  inferInstanceAs (Decidable (∀ serial ∈ a.serial, _))

/-- What stands after the product id of a printed address. -/
def tailText : Option String → List Char
  | some serial => serial.toList ++ ':' :: ':' :: "INSTR".toList
  | none => "INSTR".toList

theorem toList_toText (a : Address) :
    a.toText.toList =
      "USB".toList ++ ':' :: ':' :: ('0' :: 'x' :: (hexWord a.vendor).toList ++
        ':' :: ':' :: ('0' :: 'x' :: (hexWord a.product).toList ++
          ':' :: ':' :: tailText a.serial)) := by
  cases h : a.serial <;> simp [Address.toText, tailText, h]

theorem trim_toText (a : Address) : trim a.toText.toList = a.toText.toList := by
  refine trim_eq_self (fun c hc => ?_) fun c hc => ?_
  · rw [toList_toText] at hc
    obtain rfl : 'U' = c := Option.some.inj hc
    decide
  · have hlast : a.toText.toList.getLast? = some 'R' := by
      cases h : a.serial <;> simp [toList_toText, tailText, h, List.getLast?_cons]
    obtain rfl : 'R' = c := Option.some.inj (hlast.symm.trans hc)
    decide

theorem splitAtPairs_toText (a : Address) :
    splitAtPairs a.toText.toList = "USB".toList :: ('0' :: 'x' :: (hexWord a.vendor).toList) ::
      ('0' :: 'x' :: (hexWord a.product).toList) :: splitAtPairs (tailText a.serial) := by
  have hid : ∀ id, ¬ [':', ':'] <:+: '0' :: 'x' :: (hexWord id).toList ++ [':'] := fun id =>
    not_pair_infix_of_not_mem (by simpa using colon_not_mem_hexWord id)
  rw [toList_toText, splitAtPairs_append_pair (by decide), splitAtPairs_append_pair (hid _),
    splitAtPairs_append_pair (hid _)]

/-- A word that is longer than the one an address ends with is not that one. -/
theorem isInstrSuffix_eq_false {text : List Char} (h : 5 < text.length) :
    isInstrSuffix text = false := by
  rw [isInstrSuffix, beq_eq_false_iff_ne]
  intro he
  have hlength := congrArg List.length he
  rw [List.length_map] at hlength
  exact absurd hlength (Nat.ne_of_gt h)

/-- The first pair that a serial number brings, or makes with the colons after it, leaves either too
many parts or a last one that is too long. -/
theorem splitAtPairs_tailText_of_pair {serial : String}
    (h : [':', ':'] <:+: serial.toList ++ [':']) :
    ∃ part last rest, splitAtPairs (tailText (some serial)) = part :: last :: rest ∧
      (rest = [] → isInstrSuffix last = false) := by
  obtain ⟨part, after, he, hpart⟩ := exists_append_of_pair h
  have htail : tailText (some serial) = part ++ ':' :: ':' :: (after ++ ':' :: "INSTR".toList) := by
    have hcolon (rest : List Char) :
        serial.toList ++ ':' :: rest = (serial.toList ++ [':']) ++ rest := by
      simp
    rw [tailText, hcolon, he]
    simp
  rw [htail, splitAtPairs_append_pair hpart]
  by_cases hafter : [':', ':'] <:+: after ++ ':' :: "INSTR".toList
  · obtain ⟨last, more, he', hlast⟩ := exists_append_of_pair hafter
    rw [he', splitAtPairs_append_pair hlast]
    exact ⟨part, last, _, rfl, fun hnil => absurd hnil (splitAtPairs_ne_nil more)⟩
  · rw [splitAtPairs_eq_singleton hafter]
    refine ⟨part, _, [], rfl, fun _ => isInstrSuffix_eq_false ?_⟩
    simp

/-- The printed form of an address is read as that address, or not at all. -/
theorem parse?_toText (a : Address) : parse? a.toText = if a.Readable then some a else none := by
  obtain ⟨vendor, product, serial⟩ := a
  rw [parse?, trim_toText, splitAtPairs_toText]
  have hboard : isBoard "USB".toList = true := by decide
  have hsuffix : isInstrSuffix "INSTR".toList = true := by decide
  cases serial with
  | none =>
    rw [tailText, splitAtPairs_eq_singleton (by decide), if_pos (by simp [Readable])]
    simp only [hboard, hsuffix, readId_hexWord, Bool.and_self, if_true]
    rfl
  | some serial =>
    by_cases hpair : [':', ':'] <:+: serial.toList ++ [':']
    · rw [if_neg fun h => (pair_infix_concat.1 hpair).elim (h serial rfl).2.1 (h serial rfl).2.2]
      obtain ⟨part, last, rest, he, hlast⟩ := splitAtPairs_tailText_of_pair hpair
      rw [he]
      cases rest with
      | nil => simp [hlast rfl]
      | cons => rfl
    · rw [tailText, splitAtPairs_append_pair hpair, splitAtPairs_eq_singleton (by decide)]
      rw [pair_infix_concat, not_or] at hpair
      by_cases hempty : serial = ""
      · rw [if_neg fun h => (h serial rfl).1 hempty]
        simp [hempty]
      · have hreadable : Readable ⟨vendor, product, some serial⟩ := by
          rintro _ ⟨⟩
          exact ⟨hempty, hpair⟩
        rw [if_pos hreadable]
        simp only [hboard, hsuffix, readId_hexWord]
        simp [hempty]

theorem parse_toText (a : Address) :
    parse a.toText = if a.Readable then .ok a else .error (.invalidResource a.toText) := by
  rw [parse, parse?_toText]
  by_cases h : a.Readable
  · rw [if_pos h, if_pos h]
  · rw [if_neg h, if_neg h]

/-- The printed form of an address is read as that address if and only if it has no serial number, or
one that is not empty, has no two colons in a row and none at its end. With any other serial number it
is refused, so it is never read as another address. -/
theorem parse_toText_exact (a : Address) :
    (parse a.toText = .ok a ↔
      a.serial = none ∨ ∃ serial, a.serial = some serial ∧ serial ≠ "" ∧
        ¬ [':', ':'] <:+: serial.toList ∧ serial.toList.getLast? ≠ some ':') ∧
    (parse a.toText ≠ .ok a → parse a.toText = .error (.invalidResource a.toText)) ∧
    ∀ b, parse a.toText = .ok b → b = a := by
  have hreadable : a.Readable ↔ a.serial = none ∨ ∃ serial, a.serial = some serial ∧ serial ≠ "" ∧
      ¬ [':', ':'] <:+: serial.toList ∧ serial.toList.getLast? ≠ some ':' := by
    cases h : a.serial <;> simp [Readable, h]
  rw [← hreadable, parse_toText]
  by_cases h : a.Readable
  · rw [if_pos h]
    exact ⟨iff_of_true rfl h, fun hne => absurd rfl hne, fun b hb => (Except.ok.inj hb).symm⟩
  · rw [if_neg h]
    exact ⟨iff_of_false (fun he => nomatch he) h, fun _ => rfl, fun b hb => nomatch hb⟩

/-- A colon at the end of a serial number is taken for a part of the pair after it, and one at its start
is not. -/
example : parse (toText ⟨0x1313, 0x8079, some "P1:"⟩) = .error (.invalidResource
    "USB::0x1313::0x8079::P1:::INSTR") ∧
    parse (toText ⟨0x1313, 0x8079, some ":P1"⟩) = .ok ⟨0x1313, 0x8079, some ":P1"⟩ := by
  decide +kernel

end Address

/-! ## Selectors -/

/-- A device that an address can mean: it has the vendor of the address, the same product in normal use,
and the serial number if there is one. -/
def Address.Means (a : Address) (info : DeviceInfo) : Prop :=
  info.vendor = a.vendor ∧
    normalProduct info.vendor info.product = normalProduct a.vendor a.product ∧
    ∀ serial ∈ a.serial, info.serial = some serial

instance (a : Address) (info : DeviceInfo) : Decidable (a.Means info) :=
  inferInstanceAs (Decidable (_ ∧ _ ∧ ∀ _ ∈ a.serial, _))

namespace Selector

/-- An address selects the devices that it can mean. -/
theorem selects_ofAddress (a : Address) (info : DeviceInfo) :
    (ofAddress a).selects info = decide (a.Means info) := by
  rw [Bool.eq_iff_iff, decide_eq_true_iff]
  simp only [selects, ofAddress, Address.Means, Bool.and_eq_true, beq_iff_eq, and_assoc]
  cases a.serial <;> simp

/-- What the printed form of an address asks of a device is what the address does, if it is read. -/
theorem parse_toText (a : Address) : Selector.parse a.toText =
    if a.Readable then .ok (ofAddress a) else .error (.invalidResource a.toText) := by
  have hpair : hasPair a.toText.toList = true := by
    rw [hasPair_iff, Address.toList_toText]
    exact ⟨"USB".toList, _, (List.append_assoc ..).trans rfl⟩
  rw [Selector.parse, if_pos hpair, Address.parse_toText]
  by_cases h : a.Readable
  · rw [if_pos h, if_pos h]
    rfl
  · rw [if_neg h, if_neg h]
    rfl

end Selector

end Benchtop
