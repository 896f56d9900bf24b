import Benchtop.Wire.Block
import Mathlib.Algebra.Group.Nat.Defs
import Mathlib.Data.List.Induction

/-!
# Definite blocks

A `Block` is a payload together with the number of digits in which its length is announced, and
`Block.bytes` writes it. What the prefix of a block announces is read back whatever comes after it
(`Block.parse?_announcement_append`), and only a block without payload is a pending marker, and only
if nothing follows (`Block.isPendingMarker_announcement_append`). A prefix that is not complete
announces nothing (`Block.parse?_take_bytes`). Nothing else is read as a prefix of a definite block
(`BlockHeader.parse?_eq_some_iff`), so that there are three kinds of pending markers
(`isPendingMarker_iff`).

Main statement: a prefix is read exactly where data begin with one, and a pending marker is told from all
other data (`BlockHeader.parse?_exact`).
-/

namespace Benchtop.Wire

/-! ## Digits -/

/-- The last `width` decimal digits of a number, as ASCII digits. -/
def decimalDigits : (width : Nat) → (n : Nat) → List UInt8
  | 0, _ => []
  | width + 1, n => decimalDigits width (n / 10) ++ [UInt8.ofNat (48 + n % 10)]

@[simp] theorem length_decimalDigits (width n : Nat) : (decimalDigits width n).length = width := by
  induction width generalizing n with
  | zero => rfl
  | succ width ih => simp [decimalDigits, ih]

theorem digitValue?_ofNat : ∀ d < 10, digitValue? (UInt8.ofNat (48 + d)) = some d := by decide

theorem digitValue?_eq_some {b : UInt8} {n : Nat} (h : digitValue? b = some n) :
    48 ≤ b.toNat ∧ n = b.toNat - 48 ∧ n < 10 := by
  unfold digitValue? at h
  split at h
  · next hb =>
    obtain ⟨hlow, hhigh⟩ := hb
    have hlow := UInt8.le_iff_toNat_le.1 hlow
    have hhigh := UInt8.le_iff_toNat_le.1 hhigh
    simp only [UInt8.reduceToNat] at hlow hhigh
    cases h
    omega
  · cases h

theorem eq_ofNat_of_digitValue? {b : UInt8} {d : Nat} (h : digitValue? b = some d) :
    b = UInt8.ofNat (48 + d) := by
  obtain ⟨hlow, rfl, -⟩ := digitValue?_eq_some h
  rw [Nat.add_sub_of_le hlow, UInt8.ofNat_toNat]

theorem decimalValue?_append (acc : Nat) (xs ys : List UInt8) :
    decimalValue? acc (xs ++ ys) =
      (decimalValue? acc xs).bind fun value => decimalValue? value ys := by
  induction xs generalizing acc with
  | nil => rfl
  | cons b xs ih =>
    rw [List.cons_append, decimalValue?, decimalValue?]
    cases digitValue? b with
    | none => rfl
    | some d => exact ih _

/-- The digits of a number that has no more of them are read as the number. -/
theorem decimalValue?_decimalDigits {width n : Nat} (hn : n < 10 ^ width) (acc : Nat) :
    decimalValue? acc (decimalDigits width n) = some (acc * 10 ^ width + n) := by
  induction width generalizing n with
  | zero =>
    obtain rfl : n = 0 := by simpa using hn
    simp [decimalDigits, decimalValue?]
  | succ width ih =>
    have hdiv : n / 10 < 10 ^ width := by
      rw [Nat.div_lt_iff_lt_mul (by decide)]
      rwa [Nat.pow_succ] at hn
    rw [decimalDigits, decimalValue?_append, ih hdiv, Option.bind_some, decimalValue?,
      digitValue?_ofNat _ (Nat.mod_lt _ (by decide)), Option.bind_some, decimalValue?, Nat.pow_succ]
    congr 1
    rw [Nat.add_mul, Nat.mul_assoc]
    omega

/-- Bytes that are read as a number are its digits. -/
theorem exists_of_decimalValue? {acc value : Nat} {xs : List UInt8}
    (h : decimalValue? acc xs = some value) :
    ∃ n < 10 ^ xs.length, value = acc * 10 ^ xs.length + n ∧ xs = decimalDigits xs.length n := by
  induction xs using List.reverseRecOn generalizing value with
  | nil =>
    cases h
    exact ⟨0, Nat.one_pos, by simp, rfl⟩
  | append_singleton xs b ih =>
    rw [decimalValue?_append, Option.bind_eq_some_iff] at h
    obtain ⟨before, hbefore, h⟩ := h
    obtain ⟨n, hn, rfl, hxs⟩ := ih hbefore
    obtain ⟨d, hd, h⟩ := Option.bind_eq_some_iff.1 h
    cases h
    obtain rfl := eq_ofNat_of_digitValue? hd
    have hlt : d < 10 := (digitValue?_eq_some hd).2.2
    have hdiv : (n * 10 + d) / 10 = n := by omega
    have hmod : (n * 10 + d) % 10 = d := by omega
    rw [List.length_append, List.length_singleton, Nat.pow_succ]
    refine ⟨n * 10 + d, by omega, ?_, ?_⟩
    · rw [Nat.add_mul, Nat.mul_assoc, Nat.add_assoc]
    · rw [decimalDigits, hdiv, hmod, ← hxs]

/-- What follows `#` and a digit other than zero is read as so many digits, if they are all there. -/
theorem BlockHeader.parse?_cons {digit : UInt8} {n : Nat} (h : digitValue? digit = some n)
    (hn : 0 < n) (rest : List UInt8) :
    BlockHeader.parse? (35 :: digit :: rest) =
      if n ≤ rest.length then
        (decimalValue? 0 (rest.take n)).map fun length => ⟨2 + n, length, false⟩
      else none := by
  cases n with
  | zero => exact absurd hn (Nat.lt_irrefl 0)
  | succ n => simp only [BlockHeader.parse?, h]

/-! ## Blocks -/

/-- A block of definite length. -/
structure Block where
  /-- How many digits announce the length; leading zeros are allowed. -/
  width : Nat
  payload : List UInt8
  width_pos : 0 < width
  width_le : width ≤ 9
  length_payload_lt : payload.length < 10 ^ width

namespace Block

variable (block : Block)

/-- The prefix: `#`, the number of digits, and the length of the payload in as many digits. -/
def announcement : List UInt8 :=
  35 :: UInt8.ofNat (48 + block.width) :: decimalDigits block.width block.payload.length

/-- The prefix and the payload. -/
def bytes : List UInt8 := block.announcement ++ block.payload

@[simp] theorem length_announcement : block.announcement.length = 2 + block.width := by
  rw [announcement, List.length_cons, List.length_cons, length_decimalDigits]
  omega

theorem length_bytes : block.bytes.length = 2 + block.width + block.payload.length := by
  rw [bytes, List.length_append, length_announcement]

theorem drop_bytes : block.bytes.drop (2 + block.width) = block.payload :=
  List.drop_left' block.length_announcement

/-- There is a block of every length that its digits can hold. -/
theorem exists_of_lt {width length : Nat} (hpos : 1 ≤ width) (hle : width ≤ 9)
    (hlength : length < 10 ^ width) :
    ∃ block : Block, block.width = width ∧ block.payload.length = length :=
  ⟨⟨width, List.replicate length 0, hpos, hle, by rwa [List.length_replicate]⟩, rfl,
    List.length_replicate⟩

/-- Bytes that start a block and hold all of its prefix. -/
theorem exists_of_prefix {start trailer : List UInt8} (h : start <+: block.bytes ++ trailer)
    (hlength : 2 + block.width ≤ start.length) : ∃ rest, start = block.announcement ++ rest := by
  have hprefix : block.announcement <+: block.bytes ++ trailer := by
    rw [bytes, List.append_assoc]
    exact List.prefix_append _ _
  rw [← block.length_announcement] at hlength
  obtain ⟨rest, he⟩ := List.prefix_of_prefix_length_le hprefix h hlength
  exact ⟨rest, he.symm⟩

/-- The digit after `#` says how many come after it. -/
theorem digitValue?_width : digitValue? (UInt8.ofNat (48 + block.width)) = some block.width :=
  digitValue?_ofNat _ (by have := block.width_le; omega)

/-- The prefix of a block is read as what it announces, whatever comes after it. -/
theorem parse?_announcement_append (rest : List UInt8) :
    BlockHeader.parse? (block.announcement ++ rest) =
      some ⟨2 + block.width, block.payload.length, false⟩ := by
  rw [announcement, List.cons_append, List.cons_append,
    BlockHeader.parse?_cons block.digitValue?_width block.width_pos, if_pos (by simp),
    List.take_left' (length_decimalDigits _ _), decimalValue?_decimalDigits block.length_payload_lt,
    Option.map_some, Nat.zero_mul, Nat.zero_add]

/-- What begins like an indefinite block does not begin a definite one. -/
theorem not_announcement_prefix (rest : List UInt8) : ¬ block.announcement <+: 35 :: 48 :: rest := by
  rintro ⟨more, he⟩
  have hparse := block.parse?_announcement_append more
  rw [he] at hparse
  have hindefinite : true = false :=
    congrArg BlockHeader.indefinite (Option.some.inj hparse)
  cases hindefinite

theorem announcement_ne (rest : List UInt8) : block.announcement ≠ 35 :: 48 :: rest :=
  fun h => block.not_announcement_prefix rest (h ▸ List.prefix_rfl)

/-- A prefix that is not complete announces nothing. -/
theorem parse?_take_bytes {size : Nat} (h : size < 2 + block.width) :
    BlockHeader.parse? (block.bytes.take size) = none := by
  rw [bytes, List.take_append_of_le_length (by rw [length_announcement]; omega), announcement]
  match size with
  | 0 => rfl
  | 1 => rfl
  | size + 2 =>
    rw [List.take_succ_cons, List.take_succ_cons,
      BlockHeader.parse?_cons block.digitValue?_width block.width_pos,
      if_neg (by rw [List.length_take, length_decimalDigits]; omega)]

/-- What is cut after the prefix of a block begins with it. -/
theorem announcement_prefix_take {size : Nat} (h : 2 + block.width ≤ size) (rest : List UInt8) :
    block.announcement <+: (block.bytes ++ rest).take size := by
  rw [← block.length_announcement] at h
  rw [bytes, List.append_assoc, List.take_append, List.take_of_length_le h]
  exact List.prefix_append _ _

/-- Only a block without payload is a pending marker, and only if nothing comes after it. -/
theorem isPendingMarker_announcement_append (rest : List UInt8) :
    isPendingMarker (block.announcement ++ rest) = (block.payload.length == 0 && rest.isEmpty) := by
  have hdrop : (block.announcement ++ rest).drop (2 + block.width) = rest :=
    List.drop_left' block.length_announcement
  simp only [isPendingMarker, parse?_announcement_append, hdrop]
  rfl

end Block

/-! ## What is read -/

/-- A prefix that is read is that of an indefinite block or of a definite one. -/
theorem BlockHeader.parse?_eq_some_iff {data : List UInt8} {header : BlockHeader} :
    BlockHeader.parse? data = some header ↔
      (∃ rest, data = 35 :: 48 :: rest ∧ header = ⟨2, 0, true⟩) ∨
        ∃ (block : Block) (rest : List UInt8), data = block.announcement ++ rest ∧
          header = ⟨2 + block.width, block.payload.length, false⟩ := by
  constructor
  · intro h
    unfold BlockHeader.parse? at h
    split at h
    · next digit rest =>
      split at h
      · cases h
      · next hdigit =>
        cases h
        exact .inl ⟨rest, by rw [eq_ofNat_of_digitValue? hdigit]; rfl, rfl⟩
      · next n hn hdigit =>
        obtain rfl := eq_ofNat_of_digitValue? hdigit
        have hlt : n < 10 := (digitValue?_eq_some hdigit).2.2
        split at h
        · next hle =>
          obtain ⟨length, hvalue, rfl⟩ := Option.map_eq_some_iff.1 h
          obtain ⟨value, hbound, hlength, hdigits⟩ := exists_of_decimalValue? hvalue
          rw [List.length_take_of_le hle] at hbound hdigits hlength
          obtain rfl : length = value := by omega
          obtain ⟨block, hwidth, hpayload⟩ :=
            Block.exists_of_lt (Nat.pos_of_ne_zero hn) (by omega) hbound
          refine .inr ⟨block, rest.drop n, ?_, by rw [hwidth, hpayload]⟩
          rw [Block.announcement, hwidth, hpayload, ← hdigits, List.cons_append, List.cons_append,
            List.take_append_drop]
        · cases h
    · cases h
  · rintro (⟨rest, rfl, rfl⟩ | ⟨block, rest, rfl, rfl⟩)
    · rfl
    · exact block.parse?_announcement_append rest

/-- Data that begin no definite block are read as an indefinite block, or as none. -/
theorem BlockHeader.parse?_of_not_prefix {data : List UInt8}
    (h : ∀ block : Block, ¬ block.announcement <+: data) :
    BlockHeader.parse? data = if [35, 48] <+: data then some ⟨2, 0, true⟩ else none := by
  split
  · next hprefix =>
    obtain ⟨rest, rfl⟩ := hprefix
    rfl
  · next hprefix =>
    cases hparse : BlockHeader.parse? data with
    | none => rfl
    | some header =>
      rcases BlockHeader.parse?_eq_some_iff.1 hparse with ⟨rest, rfl, -⟩ | ⟨block, rest, rfl, -⟩
      · exact absurd (List.prefix_append [35, 48] rest) hprefix
      · exact absurd (List.prefix_append _ _) (h block)

/-- A pending marker is `#0`, `#00` or the prefix of a block without payload. -/
theorem isPendingMarker_iff {data : List UInt8} :
    isPendingMarker data ↔
      data = [35, 48] ∨ data = [35, 48, 48] ∨
        ∃ block : Block, block.payload = [] ∧ data = block.announcement := by
  constructor
  · intro h
    cases hparse : BlockHeader.parse? data with
    | none => simp [isPendingMarker, hparse] at h
    | some header =>
      rcases BlockHeader.parse?_eq_some_iff.1 hparse with ⟨rest, rfl, rfl⟩ | ⟨block, rest, rfl, rfl⟩
      · simp only [isPendingMarker, hparse, List.drop_succ_cons, List.drop_zero, if_true,
          Bool.or_eq_true, List.isEmpty_iff, beq_iff_eq] at h
        rcases h with rfl | rfl
        · exact .inl rfl
        · exact .inr (.inl rfl)
      · rw [block.isPendingMarker_announcement_append, Bool.and_eq_true, beq_iff_eq,
          List.length_eq_zero_iff, List.isEmpty_iff] at h
        obtain ⟨hpayload, rfl⟩ := h
        exact .inr (.inr ⟨block, hpayload, List.append_nil _⟩)
  · rintro (rfl | rfl | ⟨block, hpayload, rfl⟩)
    · rfl
    · rfl
    · have h := block.isPendingMarker_announcement_append []
      rwa [List.append_nil, hpayload] at h

/-! ## All data -/

@[simp] theorem decimalDigits_zero (width : Nat) :
    decimalDigits width 0 = List.replicate width 48 := by
  induction width with
  | zero => rfl
  | succ width ih =>
    rw [decimalDigits, Nat.zero_div, ih, List.replicate_succ']
    rfl

/-- The data begin with a prefix of which this is the header: `#`, a digit that tells how many digits come
next, and the length in as many digits, leading zeros included; or `#0`, which tells no length. -/
inductive BlockHeader.Begins : BlockHeader → List UInt8 → Prop
  | definite {width length : Nat} (hpos : 1 ≤ width) (hle : width ≤ 9)
    (hlength : length < 10 ^ width) (rest : List UInt8) :
    Begins ⟨2 + width, length, false⟩
      (35 :: UInt8.ofNat (48 + width) :: (decimalDigits width length ++ rest))
  | indefinite (rest : List UInt8) : Begins ⟨2, 0, true⟩ (35 :: 48 :: rest)

theorem BlockHeader.parse?_eq_some_iff_begins {data : List UInt8} {header : BlockHeader} :
    BlockHeader.parse? data = some header ↔ header.Begins data := by
  rw [BlockHeader.parse?_eq_some_iff]
  constructor
  · rintro (⟨rest, rfl, rfl⟩ | ⟨block, rest, rfl, rfl⟩)
    · exact .indefinite rest
    · exact .definite block.width_pos block.width_le block.length_payload_lt rest
  · rintro (⟨hpos, hle, hlength, rest⟩ | ⟨rest⟩)
    · obtain ⟨block, hwidth, hpayload⟩ := Block.exists_of_lt hpos hle hlength
      exact .inr ⟨block, rest, by rw [Block.announcement, hwidth, hpayload]; rfl, by rw [hwidth, hpayload]⟩
    · exact .inl ⟨rest, rfl, rfl⟩

/-- A prefix is no longer than the data that it begins. -/
theorem BlockHeader.Begins.prefixSize_le {data : List UInt8} {header : BlockHeader}
    (h : header.Begins data) : header.prefixSize ≤ data.length := by
  cases h with
  | definite =>
    simp only [List.length_cons, List.length_append, length_decimalDigits]
    omega
  | indefinite => simp

/-- A block without payload is announced by zeros alone. -/
theorem Block.announcement_of_nil {block : Block} (h : block.payload = []) :
    block.announcement = 35 :: UInt8.ofNat (48 + block.width) :: List.replicate block.width 48 := by
  rw [announcement, h, List.length_nil, decimalDigits_zero]

/-- For all data: a header is read if and only if the data begin with a prefix of which it is the header, and
none is read if they begin with no prefix at all. A header that is read is that of a prefix which is
there in full. The data are a pending marker if and only if they are `#0`, `#00`, or `#` and a digit `n`
from 1 to 9 with `n` zeros and nothing else. -/
theorem BlockHeader.parse?_exact (data : List UInt8) :
    (∀ header, BlockHeader.parse? data = some header ↔ header.Begins data) ∧
      (BlockHeader.parse? data = none ↔ ∀ header : BlockHeader, ¬ header.Begins data) ∧
      (∀ header, BlockHeader.parse? data = some header → header.prefixSize ≤ data.length) ∧
      (isPendingMarker data ↔ data = [35, 48] ∨ data = [35, 48, 48] ∨
        ∃ width, 1 ≤ width ∧ width ≤ 9 ∧
          data = 35 :: UInt8.ofNat (48 + width) :: List.replicate width 48) := by
  refine ⟨fun _ => parse?_eq_some_iff_begins, ?_, fun header h => ?_, ?_⟩
  · simp only [Option.eq_none_iff_forall_ne_some, ne_eq, parse?_eq_some_iff_begins]
  · exact (parse?_eq_some_iff_begins.1 h).prefixSize_le
  · rw [isPendingMarker_iff]
    refine or_congr_right (or_congr_right ⟨?_, ?_⟩)
    · rintro ⟨block, hpayload, rfl⟩
      exact ⟨block.width, block.width_pos, block.width_le, Block.announcement_of_nil hpayload⟩
    · rintro ⟨width, hpos, hle, rfl⟩
      obtain ⟨block, rfl, hpayload⟩ :=
        Block.exists_of_lt hpos hle (Nat.pow_pos (show 0 < 10 by decide))
      have hnil := List.eq_nil_of_length_eq_zero hpayload
      exact ⟨block, hnil, (Block.announcement_of_nil hnil).symm⟩

end Benchtop.Wire
