import Benchtop.Proofs.Resource.Address
import Benchtop.Proofs.Text.Grammar

/-!
# The grammar of addresses

A text spells an address (`Address.Spells`) if it is, but for blanks around it, the word `USB` with a
board number, two ids, a serial number if the address has one, and the word `INSTR`, with pairs of colons
between them. The pairs are found from the left (`Parted`): of three colons in a row the third one belongs
to the part after the pair.

Main statement: an address is read from the texts that spell it and from no others, and every text that
spells no address is refused and shown in the failure (`Address.parse_eq_ok_iff_spells`).
-/

namespace Benchtop

open Text

/-! ## Parts -/

/-- The parts of a text between pairs of colons. It is cut at the first pair, and what is after it
likewise. -/
inductive Parted : List Char → List (List Char) → Prop
  | last {text : List Char} (h : ¬ [':', ':'] <:+: text) : Parted text [text]
  | cut {part rest : List Char} {parts : List (List Char)} (h : ¬ [':', ':'] <:+: part ++ [':'])
      (hrest : Parted rest parts) : Parted (part ++ ':' :: ':' :: rest) (part :: parts)

theorem parted_splitAtPairs (text : List Char) : Parted text (splitAtPairs text) := by
  induction hn : text.length using Nat.strong_induction_on generalizing text with
  | _ n ih =>
    by_cases h : [':', ':'] <:+: text
    · obtain ⟨part, rest, rfl, hpart⟩ := exists_append_of_pair h
      rw [splitAtPairs_append_pair hpart]
      refine .cut hpart (ih rest.length ?_ rest rfl)
      rw [← hn, List.length_append, List.length_cons, List.length_cons]
      omega
    · rw [splitAtPairs_eq_singleton h]
      exact .last h

theorem splitAtPairs_eq_iff {text : List Char} {parts : List (List Char)} :
    splitAtPairs text = parts ↔ Parted text parts := by
  refine ⟨fun h => h ▸ parted_splitAtPairs text, fun h => ?_⟩
  induction h with
  | last h => exact splitAtPairs_eq_singleton h
  | cut h _ ih => rw [splitAtPairs_append_pair h, ih]

/-! ## Ids and words -/

/-- But for blanks around it, the text is a hexadecimal numeral of the id after `0x` or `0X`, or a
decimal one. -/
def SpellsId (text : List Char) (id : UInt16) : Prop :=
  ∃ core, Trims text core ∧
    ((∃ numeral, (core = '0' :: 'x' :: numeral ∨ core = '0' :: 'X' :: numeral) ∧
      Numeral 16 id.toNat numeral) ∨ Numeral 10 id.toNat core)

theorem map_readUnsigned_eq_some_iff {base : Nat} (hbase : base ≤ 16) {text : List Char}
    {id : UInt16} :
    (readUnsigned base 65535 text).map UInt16.ofNat = some id ↔ Numeral base id.toNat text := by
  rw [Option.map_eq_some_iff]
  constructor
  · rintro ⟨value, hvalue, rfl⟩
    obtain ⟨hnumeral, hle⟩ := (readUnsigned_eq_some_iff hbase).1 hvalue
    rwa [UInt16.toNat_ofNat_of_lt' (Nat.lt_succ_of_le hle)]
  · exact fun h => ⟨id.toNat, (readUnsigned_eq_some_iff hbase).2
      ⟨h, Nat.le_of_lt_succ id.toNat_lt⟩, UInt16.ofNat_toNat⟩

/-- No decimal numeral has the letter of the hexadecimal ones. -/
theorem not_numeral_letter {c : Char} (hc : c = 'x' ∨ c = 'X') {value : Nat} {text : List Char} :
    ¬ Numeral 10 value ('0' :: c :: text) := by
  have hdigit : ∀ d < 10, ∀ c, c = 'x' ∨ c = 'X' → ¬ (c = lowerDigit d ∨ c = upperDigit d) := by
    rintro d hd c (rfl | rfl)
    · revert d
      decide
    · revert d
      decide
  rintro (⟨-, values, hvalues, -⟩ | ⟨digits, h, -⟩)
  · obtain _ | ⟨-, _ | ⟨⟨hd, he⟩, -⟩⟩ := hvalues
    exact hdigit _ hd c hc he
  · cases h

theorem readId_eq_some_iff {text : List Char} {id : UInt16} :
    readId 10 text = some id ↔ SpellsId text id := by
  have hcore : SpellsId text id ↔ (∃ numeral, (trim text = '0' :: 'x' :: numeral ∨
      trim text = '0' :: 'X' :: numeral) ∧ Numeral 16 id.toNat numeral) ∨
        Numeral 10 id.toNat (trim text) := by
    simp only [SpellsId, ← trim_eq_iff, exists_eq_left']
  rw [hcore, readId]
  split
  · next digits he =>
    rw [he, or_iff_left (not_numeral_letter (.inl rfl)),
      map_readUnsigned_eq_some_iff (by decide)]
    simp
  · next digits he =>
    rw [he, or_iff_left (not_numeral_letter (.inr rfl)),
      map_readUnsigned_eq_some_iff (by decide)]
    simp
  · next hlower hupper =>
    rw [or_iff_right, map_readUnsigned_eq_some_iff (by decide)]
    rintro ⟨numeral, he | he, -⟩
    · exact hlower numeral he
    · exact hupper numeral he

/-- `USB` in any case, and any number of digits. -/
def SpellsBoard (text : List Char) : Prop :=
  ∃ word digits, text = word ++ digits ∧ word.map Char.toUpper = "USB".toList ∧
    ∀ c ∈ digits, c.isDigit = true

theorem isBoard_iff {text : List Char} : isBoard text = true ↔ SpellsBoard text := by
  constructor
  · intro h
    unfold isBoard at h
    split at h
    · next u s b digits =>
      simp only [Bool.and_eq_true, beq_iff_eq, List.all_eq_true] at h
      obtain ⟨⟨⟨hu, hs⟩, hb⟩, hdigits⟩ := h
      exact ⟨[u, s, b], digits, rfl, by simp [hu, hs, hb], hdigits⟩
    · cases h
  · rintro ⟨word, digits, rfl, hword, hdigits⟩
    obtain ⟨u, _, rfl, hu, hword⟩ := List.map_eq_cons_iff.1 hword
    obtain ⟨s, _, rfl, hs, hword⟩ := List.map_eq_cons_iff.1 hword
    obtain ⟨b, _, rfl, hb, hword⟩ := List.map_eq_cons_iff.1 hword
    obtain rfl := List.map_eq_nil_iff.1 hword
    simp only [List.cons_append, List.nil_append, isBoard, Bool.and_eq_true, beq_iff_eq,
      List.all_eq_true]
    exact ⟨⟨⟨hu, hs⟩, hb⟩, hdigits⟩

/-! ## Addresses -/

namespace Address

/-- The text is the address, but for blanks around it: a board, the two ids, the serial number if there
is one, and `INSTR` in any case, with pairs of colons between them. -/
inductive Spells (text : String) (a : Address) : Prop
  | intro {core board vendor product suffix : List Char} (hcore : Trims text.toList core)
      (hparts : Parted core
        (board :: vendor :: product :: (a.serial.map String.toList).toList ++ [suffix]))
      (hboard : SpellsBoard board) (hvendor : SpellsId vendor a.vendor)
      (hproduct : SpellsId product a.product) (hserial : ∀ serial ∈ a.serial, serial ≠ "")
      (hsuffix : suffix.map Char.toUpper = "INSTR".toList)

theorem spells_of_parse? {text : String} {a : Address} (h : parse? text = some a) :
    Spells text a := by
  have hcore := trims_trim text.toList
  have hparts := parted_splitAtPairs (trim text.toList)
  unfold parse? at h
  split at h
  · next board vendor product suffix he =>
    rw [he] at hparts
    split_ifs at h with hwords
    obtain ⟨v, hv, h⟩ := Option.bind_eq_some_iff.1 h
    obtain ⟨p, hp, h⟩ := Option.bind_eq_some_iff.1 h
    cases h
    obtain ⟨hboard, hsuffix⟩ := Bool.and_eq_true_iff.1 hwords
    exact .intro hcore hparts (isBoard_iff.1 hboard) (readId_eq_some_iff.1 hv)
      (readId_eq_some_iff.1 hp) nofun (beq_iff_eq.1 hsuffix)
  · next board vendor product serial suffix he =>
    rw [he] at hparts
    split_ifs at h with hwords
    obtain ⟨v, hv, h⟩ := Option.bind_eq_some_iff.1 h
    obtain ⟨p, hp, h⟩ := Option.bind_eq_some_iff.1 h
    cases h
    obtain ⟨hwords, hserial⟩ := Bool.and_eq_true_iff.1 hwords
    obtain ⟨hboard, hsuffix⟩ := Bool.and_eq_true_iff.1 hwords
    refine .intro hcore (by simpa using hparts) (isBoard_iff.1 hboard) (readId_eq_some_iff.1 hv)
      (readId_eq_some_iff.1 hp) ?_ (beq_iff_eq.1 hsuffix)
    rintro _ ⟨⟩ hempty
    simp [String.ofList_eq_empty_iff.1 hempty] at hserial
  · cases h

theorem parse?_of_spells {text : String} {a : Address} (h : Spells text a) :
    parse? text = some a := by
  obtain @⟨_, _, _, _, suffix, hcore, hparts, hboard, hvendor, hproduct, hserial, hsuffix⟩ := h
  obtain ⟨v, p, serial⟩ := a
  rw [← trim_eq_iff] at hcore
  rw [← splitAtPairs_eq_iff, ← hcore] at hparts
  rw [← isBoard_iff] at hboard
  rw [← readId_eq_some_iff] at hvendor hproduct
  replace hsuffix : isInstrSuffix suffix = true := beq_iff_eq.2 hsuffix
  cases serial with
  | none =>
    simp only [Option.map_none, Option.toList_none, List.cons_append, List.nil_append] at hparts
    simp [parse?, hparts, hboard, hsuffix, hvendor, hproduct]
  | some serial =>
    simp only [Option.map_some, Option.toList_some, List.cons_append, List.nil_append] at hparts
    have hempty : serial ≠ "" := hserial serial rfl
    simp [parse?, hparts, hboard, hsuffix, hvendor, hproduct, hempty]

theorem parse?_eq_some_iff {text : String} {a : Address} : parse? text = some a ↔ Spells text a :=
  ⟨spells_of_parse?, parse?_of_spells⟩

/-- An address is read from the texts that spell it and from no others. A text that spells no address is
refused, and the failure shows it. -/
theorem parse_eq_ok_iff_spells (text : String) :
    (∀ a, parse text = .ok a ↔ Spells text a) ∧
      ((∀ a, ¬ Spells text a) → parse text = .error (.invalidResource text)) := by
  simp only [← parse?_eq_some_iff, parse]
  cases parse? text with
  | none => exact ⟨fun a => by simp, fun _ => rfl⟩
  | some b => exact ⟨fun a => by simp, fun h => absurd rfl (h b)⟩

/-- All that the grammar leaves open at once. -/
example : parse "\t uSb07:: +06833::0X+4ce:::P1::Instr\n" = .ok ⟨6833, 0x4CE, some ":P1"⟩ := by
  decide +kernel

end Address

end Benchtop
