import Benchtop.Proofs.Wire.Block
import Benchtop.Proofs.Wire.Envelope
import Benchtop.Wire.Capabilities

/-!
# Reading bytes with checks

Bytes are read by patterns here, which leave no case out. A machine reads them by index, cuts them at an
index and counts in words of a limited width, and each such step is allowed only under a condition. The
readers of this module take these steps, in the order in which a machine does, and give a `Fault` where a
step is not allowed.

Main statements: an envelope, a block's prefix, a pending marker and capabilities are read without a
fault whatever the bytes, and as the patterns read them (`Envelope.parseChecked_eq`,
`BlockHeader.parseChecked_eq`, `isPendingMarkerChecked_eq`, `Capabilities.parseChecked_eq`). Numbers need
words of 32 bits: a prefix has at most nine digits.
-/

namespace Benchtop.Wire

/-! ## Steps -/

/-- What a step that is not allowed does wrong. -/
inductive Fault where
  | outOfBounds
  /-- Data is to be cut into pieces of no bytes. -/
  | emptyPieces
  /-- A number does not fit its word, or would be negative. -/
  | overflow
  deriving DecidableEq, Repr

/-- A value, unless a step was not allowed. -/
abbrev Checked := Except Fault

namespace Checked

/-- The byte at an index. -/
def byteAt (data : List UInt8) (index : Nat) : Checked UInt8 :=
  match data[index]? with
  | some byte => .ok byte
  | none => .error .outOfBounds

/-- The bytes from one index up to another. -/
def slice (data : List UInt8) (start stop : Nat) : Checked (List UInt8) :=
  if start ≤ stop ∧ stop ≤ data.length then .ok ((data.take stop).drop start)
  else .error .outOfBounds

/-- The bytes from an index on. -/
def splitOff (data : List UInt8) (start : Nat) : Checked (List UInt8) :=
  if start ≤ data.length then .ok (data.drop start) else .error .outOfBounds

/-- A sum in words of `width` bits. -/
def add (width a b : Nat) : Checked Nat := if a + b < 2 ^ width then .ok (a + b) else .error .overflow

/-- A product in words of `width` bits. -/
def mul (width a b : Nat) : Checked Nat := if a * b < 2 ^ width then .ok (a * b) else .error .overflow

/-- A difference of words. -/
def sub (a b : Nat) : Checked Nat := if b ≤ a then .ok (a - b) else .error .overflow

section

variable {data : List UInt8} {width a b : Nat}

@[simp] theorem ok_bind {α β : Type} (a : α) (f : α → Checked β) :
    ((.ok a : Checked α) >>= f) = f a := rfl

theorem splitOff_of_le {start : Nat} (h : start ≤ data.length) :
    splitOff data start = .ok (data.drop start) := if_pos h

theorem add_of_lt (h : a + b < 2 ^ width) : add width a b = .ok (a + b) := if_pos h

theorem mul_of_lt (h : a * b < 2 ^ width) : mul width a b = .ok (a * b) := if_pos h

theorem sub_of_le (h : b ≤ a) : sub a b = .ok (a - b) := if_pos h

end

end Checked

open Checked

/-! ## Envelopes -/

/-- Reads the header at the start of `data`. -/
def Envelope.parseChecked (data : List UInt8) (expected : MessageKind) :
    Checked (Except EnvelopeError Envelope) := do
  if data.length < headerSize then return .error (.tooShort data.length)
  let id ← byteAt data 0
  if id ≠ expected.id then return .error (.wrongKind expected.id id)
  let tag ← byteAt data 1
  let complement ← byteAt data 2
  if complement ≠ ~~~tag then return .error (.badComplement tag complement)
  match ← slice data 4 8 with
  | [s₀, s₁, s₂, s₃] =>
    let attributes ← byteAt data 8
    let char ← byteAt data 9
    return .ok
      { kind := expected
        tag
        size := ofLittleEndian s₀ s₁ s₂ s₃
        endOfMessage := attributes &&& 1 != 0
        termChar := if attributes &&& 2 != 0 then some char else none }
  | _ => return .error (.tooShort data.length)

theorem Envelope.parse_of_lt {data : List UInt8} (h : data.length < headerSize)
    (expected : MessageKind) : parse data expected = .error (.tooShort data.length) := by
  unfold parse
  split
  · exact absurd h (by simp [headerSize])
  · rfl

theorem Envelope.parseChecked_eq (data : List UInt8) (expected : MessageKind) :
    parseChecked data expected = .ok (parse data expected) := by
  unfold parseChecked
  by_cases h : data.length < headerSize
  · rw [if_pos h, parse_of_lt h]
    rfl
  · rw [if_neg h]
    match data, Nat.not_lt.1 h with
    | id :: tag :: complement :: _ :: s₀ :: s₁ :: s₂ :: s₃ :: attributes :: char :: _ :: _ :: _, _ =>
      by_cases hid : id = expected.id
      · by_cases hcomplement : complement = ~~~tag
        · simp [parse, byteAt, slice, hid, hcomplement, pure, Except.pure]
        · simp [parse, byteAt, hid, hcomplement, pure, Except.pure]
      · simp [parse, byteAt, hid, pure, Except.pure]

/-! ## Blocks -/

/-- Reads ASCII digits in words of `width` bits. -/
def decimalValueChecked (width : Nat) : (acc : Nat) → List UInt8 → Checked Nat
  | acc, [] => return acc
  | acc, b :: rest => do
    let shifted ← mul width acc 10
    let digit ← sub b.toNat 48
    decimalValueChecked width (← add width shifted digit) rest

/-- Reads the prefix at the start of `data`. The digits may not all be there. -/
def BlockHeader.parseChecked (width : Nat) (data : List UInt8) : Checked (Option BlockHeader) := do
  if data.length < 2 then return none
  let mark ← byteAt data 0
  if mark ≠ 35 then return none
  let digit ← byteAt data 1
  if !(digitValue? digit).isSome then return none
  let count ← sub digit.toNat 48
  let prefixSize ← add width 2 count
  if count = 0 then return some ⟨prefixSize, 0, true⟩
  if data.length < prefixSize then return none
  let digits := (data.take prefixSize).drop 2
  if !digits.all fun b => (digitValue? b).isSome then return none
  return some ⟨prefixSize, ← decimalValueChecked width 0 digits, false⟩

/-- Digits are a number less than a power of ten. -/
theorem decimalValue?_lt {acc k value : Nat} {digits : List UInt8} (hacc : acc < 10 ^ k)
    (h : decimalValue? acc digits = some value) : value < 10 ^ (k + digits.length) := by
  induction digits generalizing acc k with
  | nil =>
    cases h
    exact hacc
  | cons b digits ih =>
    obtain ⟨d, hd, h⟩ := Option.bind_eq_some_iff.1 h
    have hlt := (digitValue?_eq_some hd).2.2
    have hacc' : acc * 10 + d < 10 ^ (k + 1) := by
      rw [Nat.pow_succ]
      omega
    have := ih hacc' h
    rwa [List.length_cons, Nat.add_comm digits.length, ← Nat.add_assoc]

/-- As long as there are no more than nine digits, words of 32 bits hold what is read. -/
theorem decimalValueChecked_eq {width : Nat} (hw : 32 ≤ width) {acc k : Nat} {digits : List UInt8}
    {value : Nat} (hacc : acc < 10 ^ k) (hk : k + digits.length ≤ 9)
    (h : decimalValue? acc digits = some value) : decimalValueChecked width acc digits = .ok value := by
  have hword : 2 ^ 32 ≤ 2 ^ width := Nat.pow_le_pow_right (by decide) hw
  induction digits generalizing acc k with
  | nil =>
    cases h
    rfl
  | cons b digits ih =>
    obtain ⟨d, hd, h⟩ := Option.bind_eq_some_iff.1 h
    obtain ⟨hb, rfl, hlt⟩ := digitValue?_eq_some hd
    rw [List.length_cons] at hk
    have hsum : acc * 10 + (b.toNat - 48) < 10 ^ (k + 1) := by
      rw [Nat.pow_succ]
      omega
    have hpow : 10 ^ (k + 1) ≤ 10 ^ 9 := Nat.pow_le_pow_right (by decide) (by omega)
    rw [decimalValueChecked, mul_of_lt (by omega), ok_bind, sub_of_le hb, ok_bind,
      add_of_lt (by omega), ok_bind, ih hsum (by omega) h]

/-- Bytes that are not all digits are no number. -/
theorem isSome_decimalValue? (acc : Nat) (digits : List UInt8) :
    (decimalValue? acc digits).isSome = digits.all fun b => (digitValue? b).isSome := by
  induction digits generalizing acc with
  | nil => rfl
  | cons b digits ih =>
    rw [decimalValue?, List.all_cons]
    cases digitValue? b with
    | none => rfl
    | some d => exact ih _

theorem BlockHeader.parseChecked_eq {width : Nat} (hw : 32 ≤ width) (data : List UInt8) :
    parseChecked width data = .ok (parse? data) := by
  have hword : 2 ^ 32 ≤ 2 ^ width := Nat.pow_le_pow_right (by decide) hw
  match data with
  | [] => rfl
  | [b] =>
    rw [parseChecked, if_pos (by simp)]
    simp [parse?, pure, Except.pure]
  | mark :: digit :: rest =>
    have hmark : byteAt (mark :: digit :: rest) 0 = .ok mark := rfl
    have hdigit : byteAt (mark :: digit :: rest) 1 = .ok digit := rfl
    rw [parseChecked, if_neg (by simp), hmark, ok_bind]
    by_cases h : mark = 35
    · subst h
      rw [if_neg (by simp), hdigit, ok_bind]
      cases hd : digitValue? digit with
      | none =>
        simp [parse?, hd, pure, Except.pure]
      | some n =>
        obtain ⟨hle, rfl, hlt⟩ := digitValue?_eq_some hd
        rw [if_neg (by simp), sub_of_le hle, ok_bind, add_of_lt (by omega), ok_bind]
        generalize digit.toNat - 48 = n at *
        by_cases hzero : n = 0
        · subst hzero
          rw [if_pos rfl]
          simp [parse?, hd, pure, Except.pure]
        · rw [if_neg hzero, parse?_cons hd (Nat.pos_of_ne_zero hzero)]
          by_cases hall : n ≤ rest.length
          · rw [if_neg (by simp only [List.length_cons]; omega), if_pos hall]
            have hdigits : ((35 :: digit :: rest).take (2 + n)).drop 2 = rest.take n := by
              rw [Nat.add_comm, List.take_succ_cons, List.take_succ_cons]
              rfl
            rw [hdigits]
            dsimp only
            rw [← isSome_decimalValue? 0]
            cases hv : decimalValue? 0 (rest.take n) with
            | none => rfl
            | some value =>
              have hlength : 0 + (rest.take n).length ≤ 9 := by
                rw [List.length_take]
                omega
              rw [decimalValueChecked_eq hw (Nat.pow_pos (by decide)) hlength hv]
              rfl
          · rw [if_pos (by simp only [List.length_cons]; omega), if_neg hall]
            rfl
    · rw [if_pos h]
      simp [parse?, h, pure, Except.pure]

/-- Words of 16 bits are too narrow for the prefix `#565536`. -/
example : BlockHeader.parseChecked 16 [35, 53, 54, 53, 53, 51, 54] = .error .overflow := by rfl

/-- The prefix of a block is part of the data. -/
theorem BlockHeader.prefixSize_le_of_parse? {data : List UInt8} {header : BlockHeader}
    (h : parse? data = some header) : header.prefixSize ≤ data.length := by
  unfold parse? at h
  split at h
  · split at h
    · cases h
    · cases h
      simp
    · split at h
      · obtain ⟨_, -, rfl⟩ := Option.map_eq_some_iff.1 h
        simp only [List.length_cons]
        omega
      · cases h
  · cases h

/-- The prefix of a block and what it announces are counted in words of 32 bits. -/
theorem BlockHeader.prefixSize_add_length_lt {data : List UInt8} {header : BlockHeader}
    (h : parse? data = some header) : header.prefixSize + header.length < 2 ^ 32 := by
  unfold parse? at h
  split at h
  · split at h
    · cases h
    · cases h
      decide
    · next n _ hn =>
      split at h
      · obtain ⟨length, hlength, rfl⟩ := Option.map_eq_some_iff.1 h
        have hlt := (digitValue?_eq_some hn).2.2
        have hvalue : length < 10 ^ 9 :=
          Nat.lt_of_lt_of_le (decimalValue?_lt (k := 0) (by decide) hlength)
            (Nat.pow_le_pow_right (by decide) (by rw [List.length_take]; omega))
        dsimp only
        omega
      · cases h
  · cases h

/-- Whether `data` is a block of no bytes and nothing else. -/
def isPendingMarkerChecked (width : Nat) (data : List UInt8) : Checked Bool := do
  match ← BlockHeader.parseChecked width data with
  | none => return false
  | some header =>
    let rest ← splitOff data header.prefixSize
    if header.indefinite then return rest.isEmpty || rest == [48]
    else return header.length == 0 && rest.isEmpty

theorem isPendingMarkerChecked_eq {width : Nat} (hw : 32 ≤ width) (data : List UInt8) :
    isPendingMarkerChecked width data = .ok (isPendingMarker data) := by
  rw [isPendingMarkerChecked, BlockHeader.parseChecked_eq hw, ok_bind, isPendingMarker]
  cases h : BlockHeader.parse? data with
  | none => rfl
  | some header =>
    dsimp only
    rw [splitOff_of_le (BlockHeader.prefixSize_le_of_parse? h), ok_bind]
    split <;> rfl

/-! ## Capabilities -/

/-- Reads the capabilities of an interface. -/
def Capabilities.parseChecked (data : List UInt8) (usb488 : Bool) :
    Checked (Except CapabilityError Capabilities) := do
  match data.head? with
  | none => return .error (.truncated 0)
  | some code =>
    let status := Status.ofCode code
    if status ≠ .success then return .error (.refused status)
    if data.length < 6 then return .error (.truncated data.length)
    let plain := plainFields (← byteAt data 2) (← byteAt data 3) (← byteAt data 4) (← byteAt data 5)
    if usb488 then
      if data.length < 16 then return .error (.truncated data.length)
      return .ok (plain.withExtendedFields (← byteAt data 12) (← byteAt data 13) (← byteAt data 14)
        (← byteAt data 15))
    return .ok plain

/-- An answer that tells success has to have six bytes. -/
theorem Capabilities.parse_of_lt {code : UInt8} {rest : List UInt8} {usb488 : Bool}
    (hstatus : Status.ofCode code = .success) (h : (code :: rest).length < 6) :
    parse (code :: rest) usb488 = .error (.truncated (code :: rest).length) := by
  simp only [parse, hstatus, ne_eq, not_true_eq_false, if_false]
  split
  · exact absurd h (by simp)
  · rfl

/-- An answer with the fields of the USB488 subclass has to have sixteen bytes. -/
theorem Capabilities.parse_extended_of_lt {code r low high interfaceBits deviceBits : UInt8}
    {more : List UInt8} (hstatus : Status.ofCode code = .success)
    (h : (code :: r :: low :: high :: interfaceBits :: deviceBits :: more).length < 16) :
    parse (code :: r :: low :: high :: interfaceBits :: deviceBits :: more) true =
      .error (.truncated (code :: r :: low :: high :: interfaceBits :: deviceBits :: more).length) := by
  simp only [parse, hstatus, ne_eq, not_true_eq_false, if_false, Bool.not_true, Bool.false_eq_true]
  split
  · exact absurd h (by simp)
  · rfl

theorem Capabilities.parseChecked_eq (data : List UInt8) (usb488 : Bool) :
    parseChecked data usb488 = .ok (parse data usb488) := by
  match data with
  | [] => rfl
  | code :: rest =>
    rw [parseChecked]
    dsimp only [List.head?_cons]
    by_cases hstatus : Status.ofCode code = .success
    · rw [if_neg (fun h => h hstatus)]
      by_cases hplain : (code :: rest).length < 6
      · rw [if_pos hplain, parse_of_lt hstatus hplain]
        rfl
      · rw [if_neg hplain]
        match rest, Nat.not_lt.1 hplain with
        | r :: low :: high :: interfaceBits :: deviceBits :: more, _ =>
          cases usb488 with
          | false => simp [parse, byteAt, hstatus, pure, Except.pure]
          | true =>
            by_cases hextended :
                (code :: r :: low :: high :: interfaceBits :: deviceBits :: more).length < 16
            · rw [parse_extended_of_lt hstatus hextended]
              simp only [hextended]
              rfl
            · simp only [hextended, if_false]
              match more, Nat.not_lt.1 hextended with
              | _ :: _ :: _ :: _ :: _ :: _ :: low' :: high' :: interfaceBits' :: deviceBits' :: _, _ =>
                simp [parse, byteAt, hstatus, pure, Except.pure]
    · rw [if_pos hstatus]
      simp [parse, hstatus, pure, Except.pure]

end Benchtop.Wire
