import Benchtop.Wire.Envelope
import Mathlib.Order.Bounds.Defs

/-!
# Reading of what was framed

Both ends of the bulk endpoints take a transfer apart by its envelope alone. `Envelope.parse` gives
back the envelope that was written, whatever follows it (`parse_bytes_append`), and looks at the
header only (`parse_append`). A frame is the header, the payload and fewer than four zero bytes
(`length_padding_lt`), and its length is a multiple of four (`four_dvd_length_frame`).

Conversely, an envelope that was read says all that counts of the header it was read from. Written
again it is that header with the reserved bytes and bits cleared (`bytes_of_parse`). `Parsed` lists
what reading comes to, for bytes of any origin.

Main statement: writing and reading are inverse to each other in this sense (`parse_exact`).
-/

namespace Benchtop.Wire

/-- The number that four bytes hold is the one they were made of. -/
theorem ofLittleEndian_littleEndian (n : UInt32) :
    ofLittleEndian n.toUInt8 (n >>> 8).toUInt8 (n >>> 16).toUInt8 (n >>> 24).toUInt8 = n := by
  apply UInt32.toNat_inj.1
  apply Nat.eq_of_testBit_eq
  intro i
  -- The bits of a byte are those of the number from its place on; there is no bit 32.
  have hn : 32 ≤ i → n.toNat.testBit i = false := fun hi =>
    Nat.testBit_lt_two_pow (Nat.lt_of_lt_of_le n.toNat_lt (Nat.pow_le_pow_right (by decide) hi))
  simp only [ofLittleEndian, UInt32.toNat_or, UInt32.toNat_shiftLeft, UInt8.toNat_toUInt32,
    UInt32.toNat_toUInt8, UInt32.toNat_shiftRight, UInt32.reduceToNat, Nat.reduceMod,
    Nat.testBit_or, Nat.testBit_mod_two_pow, Nat.testBit_shiftLeft, Nat.testBit_shiftRight]
  grind

/-- Four bytes are those of the number that they hold. -/
theorem littleEndian_ofLittleEndian (a b c d : UInt8) :
    littleEndian (ofLittleEndian a b c d) = [a, b, c, d] := by
  -- The bits of the number are those of the bytes in turn; a byte has no bit 8.
  have hbyte : ∀ x : UInt8, ∀ i, 8 ≤ i → x.toNat.testBit i = false := fun x i hi =>
    Nat.testBit_lt_two_pow (Nat.lt_of_lt_of_le x.toNat_lt (Nat.pow_le_pow_right (by decide) hi))
  simp only [littleEndian, ofLittleEndian, List.cons.injEq, and_true, ← UInt8.toNat_inj]
  refine ⟨?_, ?_, ?_, ?_⟩ <;>
  · apply Nat.eq_of_testBit_eq
    intro i
    simp only [UInt32.toNat_toUInt8, UInt32.toNat_or, UInt32.toNat_shiftLeft, UInt8.toNat_toUInt32,
      UInt32.toNat_shiftRight, UInt32.reduceToNat, Nat.reduceMod, Nat.testBit_or,
      Nat.testBit_mod_two_pow, Nat.testBit_shiftLeft, Nat.testBit_shiftRight]
    grind

/-- The two lowest bits of a byte are all that its tests for them tell. -/
theorem and_three_eq (b : UInt8) :
    b &&& 3 = (if b &&& 1 != 0 then 1 else 0) ||| (if b &&& 2 != 0 then 2 else 0) := by
  have hall : ∀ n < 256, UInt8.ofNat n &&& 3 =
      (if UInt8.ofNat n &&& 1 != 0 then 1 else 0) ||| (if UInt8.ofNat n &&& 2 != 0 then 2 else 0) := by
    decide +kernel
  simpa using hall b.toNat b.toNat_lt

namespace Envelope

/-! ## Headers -/

theorem attributes_endOfMessage (e : Envelope) : (e.attributes &&& 1 != 0) = e.endOfMessage := by
  unfold attributes
  generalize e.endOfMessage = last, e.termChar.isSome = given
  revert last given
  decide

theorem attributes_termChar (e : Envelope) : (e.attributes &&& 2 != 0) = e.termChar.isSome := by
  unfold attributes
  generalize e.endOfMessage = last, e.termChar.isSome = given
  revert last given
  decide

/-- A header is read as the envelope it was written from, whatever follows it. -/
theorem parse_bytes_append (e : Envelope) (rest : List UInt8) :
    parse (e.bytes ++ rest) e.kind = .ok e := by
  simp only [parse, bytes, littleEndian, List.cons_append, List.nil_append, ne_eq,
    not_true_eq_false, if_false, ofLittleEndian_littleEndian, attributes_endOfMessage,
    attributes_termChar]
  rcases e with ⟨_, _, _, _, _ | _⟩ <;> rfl

/-- Bytes after the header have no part in what is read. -/
theorem parse_append {data : List UInt8} (h : headerSize ≤ data.length) (rest : List UInt8)
    (kind : MessageKind) : parse (data ++ rest) kind = parse data kind := by
  match data, h with
  | _ :: _ :: _ :: _ :: _ :: _ :: _ :: _ :: _ :: _ :: _ :: _ :: _, _ => rfl

/-- What is read as an envelope has the length of a header. -/
theorem headerSize_le_of_parse {data : List UInt8} {kind : MessageKind} {e : Envelope}
    (h : parse data kind = .ok e) : headerSize ≤ data.length := by
  unfold parse at h
  split at h
  · simp [headerSize]
  · cases h

/-- The first byte of what is read as an envelope says of which kind it is. -/
theorem head?_of_parse {data : List UInt8} {kind : MessageKind} {e : Envelope}
    (h : parse data kind = .ok e) : data.head? = some kind.id := by
  unfold parse at h
  split at h
  · split at h
    · cases h
    · next hid => exact congrArg some (Decidable.not_not.1 hid)
  · cases h

theorem kind_of_parse {data : List UInt8} {kind : MessageKind} {e : Envelope}
    (h : parse data kind = .ok e) : e.kind = kind := by
  unfold parse at h
  split at h
  · split at h
    · cases h
    · split at h <;> cases h
      rfl
  · cases h

/-! ## Frames -/

theorem length_padding_lt (n : Nat) : (padding n).length < 4 := by
  rw [padding, List.length_replicate]
  omega

theorem four_dvd_add_length_padding (n : Nat) : 4 ∣ n + (padding n).length := by
  rw [padding, List.length_replicate]
  omega

theorem length_frame (e : Envelope) (payload : List UInt8) :
    (e.frame payload).length =
      headerSize + payload.length + (padding (headerSize + payload.length)).length := by
  simp only [frame, List.length_append, length_bytes]

theorem four_dvd_length_frame (e : Envelope) (payload : List UInt8) :
    4 ∣ (e.frame payload).length := by
  rw [length_frame]
  exact four_dvd_add_length_padding _

theorem parse_frame (e : Envelope) (payload : List UInt8) :
    parse (e.frame payload) e.kind = .ok e := by
  rw [frame, List.append_assoc]
  exact parse_bytes_append e _

/-- After the header of a frame come the payload and the padding. -/
theorem drop_frame (e : Envelope) (payload : List UInt8) :
    (e.frame payload).drop headerSize = payload ++ padding (headerSize + payload.length) := by
  rw [frame, List.append_assoc, ← e.length_bytes]
  exact List.drop_left

/-- A frame is no longer than it has to be. -/
theorem isLeast_length_frame (e : Envelope) (payload : List UInt8) :
    IsLeast {n | headerSize + payload.length ≤ n ∧ 4 ∣ n} (e.frame payload).length := by
  refine ⟨⟨?_, four_dvd_length_frame e payload⟩, fun n ⟨hle, hdvd⟩ => ?_⟩
  · rw [length_frame]
    exact Nat.le_add_right _ _
  · have hlt := length_padding_lt (headerSize + payload.length)
    have hframe := four_dvd_length_frame e payload
    rw [length_frame] at hframe ⊢
    omega

/-! ## What is read -/

/-- The header at the start of some bytes without what no reader looks at: the reserved bytes, the
reserved bits of the attributes, and the termination character if the attributes do not say that there
is one. -/
def cleared (data : List UInt8) : List UInt8 :=
  (data.take headerSize).mapIdx fun i byte =>
    if i = 3 ∨ i = 10 ∨ i = 11 then 0
    else if i = 8 then byte &&& 3
    else if i = 9 ∧ data.getD 8 0 &&& 2 = 0 then 0
    else byte

example : cleared [2, 1, 254, 7, 4, 0, 0, 0, 0xFD, 10, 7, 7, 65] =
    [2, 1, 254, 0, 4, 0, 0, 0, 1, 0, 0, 0] := by
  decide

/-- What is read as an envelope is written as the header that it was read from, less what no reader
looks at. -/
theorem bytes_of_parse {data : List UInt8} {kind : MessageKind} {e : Envelope}
    (h : parse data kind = .ok e) : e.bytes = cleared data := by
  unfold parse at h
  split at h
  · next id tag complement reserved s₀ s₁ s₂ s₃ attributes char _ _ _ =>
    split at h
    · cases h
    · next hid =>
      split at h
      · cases h
      · next hcomplement =>
        cases h
        obtain rfl := Decidable.not_not.1 hid
        obtain rfl := Decidable.not_not.1 hcomplement
        have hattributes := and_three_eq attributes
        by_cases hchar : attributes &&& 2 = 0 <;>
          simp [bytes, cleared, headerSize, Envelope.attributes, littleEndian_ofLittleEndian, hchar,
            hattributes]
  · cases h

/-- What reading bytes as an envelope of a kind comes to. -/
inductive Parsed (kind : MessageKind) : List UInt8 → Except EnvelopeError Envelope → Prop
  | tooShort {data : List UInt8} (h : data.length < headerSize) :
    Parsed kind data (.error (.tooShort data.length))
  | wrongKind {id : UInt8} {rest : List UInt8} (hlength : headerSize ≤ (id :: rest).length)
    (h : id ≠ kind.id) : Parsed kind (id :: rest) (.error (.wrongKind kind.id id))
  | badComplement {tag complement : UInt8} {rest : List UInt8}
    (hlength : headerSize ≤ (kind.id :: tag :: complement :: rest).length) (h : complement ≠ ~~~tag) :
    Parsed kind (kind.id :: tag :: complement :: rest) (.error (.badComplement tag complement))
  | envelope {tag : UInt8} {rest : List UInt8} {e : Envelope}
    (hlength : headerSize ≤ (kind.id :: tag :: ~~~tag :: rest).length) (hkind : e.kind = kind)
    (hbytes : e.bytes = cleared (kind.id :: tag :: ~~~tag :: rest)) :
    Parsed kind (kind.id :: tag :: ~~~tag :: rest) (.ok e)

theorem parsed_parse (data : List UInt8) (kind : MessageKind) :
    Parsed kind data (parse data kind) := by
  cases hparse : parse data kind with
  | ok e =>
    have hlength := headerSize_le_of_parse hparse
    have hkind := kind_of_parse hparse
    have hbytes := bytes_of_parse hparse
    unfold parse at hparse
    split at hparse
    · split at hparse
      · cases hparse
      · next hid =>
        split at hparse
        · cases hparse
        · next hcomplement =>
          obtain rfl := Decidable.not_not.1 hid
          obtain rfl := Decidable.not_not.1 hcomplement
          exact .envelope hlength hkind hbytes
    · cases hparse
  | error error =>
    unfold parse at hparse
    split at hparse
    · split at hparse
      · next hid =>
        cases hparse
        exact .wrongKind (by simp [headerSize]) hid
      · next hid =>
        obtain rfl := Decidable.not_not.1 hid
        split at hparse
        · next hcomplement =>
          cases hparse
          exact .badComplement (by simp [headerSize]) hcomplement
        · cases hparse
    · next hshort =>
      cases hparse
      refine .tooShort (Nat.lt_of_not_le fun hle => ?_)
      match data, hle with
      | _ :: _ :: _ :: _ :: _ :: _ :: _ :: _ :: _ :: _ :: _ :: _ :: _, _ =>
        exact hshort _ _ _ _ _ _ _ _ _ _ _ _ _ rfl

/-- Bytes are read as an envelope of a kind if a header is there that begins with the id of the kind, and
its second byte has its complement next to it. -/
theorem exists_parse_eq_ok_iff {data : List UInt8} {kind : MessageKind} :
    (∃ e, parse data kind = .ok e) ↔
      headerSize ≤ data.length ∧ data[0]? = some kind.id ∧ data[2]? = data[1]?.map (~~~ ·) := by
  have hparsed := parsed_parse data kind
  generalize parse data kind = outcome at hparsed
  cases hparsed with
  | tooShort h => simp [Nat.not_le.2 h]
  | wrongKind _ h => simp [h]
  | badComplement _ h => simp [h]
  | envelope hlength => simpa using hlength

/-- Every frame is read as the envelope that it was written from, and holds its payload, with as few zero
bytes after it as bring the length to a multiple of four. What is read of any bytes is an envelope if
they begin with a header of the kind, and that is the header again when it is written. -/
theorem parse_exact :
    (∀ (e : Envelope) (payload : List UInt8),
      parse (e.frame payload) e.kind = .ok e ∧
      IsLeast {n | headerSize + payload.length ≤ n ∧ 4 ∣ n} (e.frame payload).length ∧
      ∃ k, (e.frame payload).drop headerSize = payload ++ List.replicate k 0) ∧
    ∀ (data : List UInt8) (kind : MessageKind),
      Parsed kind data (parse data kind) ∧
      ((∃ e, parse data kind = .ok e) ↔
        headerSize ≤ data.length ∧ data[0]? = some kind.id ∧ data[2]? = data[1]?.map (~~~ ·)) :=
  ⟨fun e payload => ⟨parse_frame e payload, isLeast_length_frame e payload, _, drop_frame e payload⟩,
    fun data kind => ⟨parsed_parse data kind, exists_parse_eq_ok_iff⟩⟩

end Envelope

end Benchtop.Wire
