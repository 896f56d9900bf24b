import Benchtop.Text.Digits

/-!
# Bulk transfer envelopes

Every message on the bulk endpoints is wrapped in a header of 12 bytes, little-endian:

| offset | field                                              |
|--------|----------------------------------------------------|
| 0      | message id                                         |
| 1      | tag                                                |
| 2      | complement of the tag                              |
| 3      | reserved, zero                                     |
| 4 … 7  | size of the payload                                |
| 8      | bit 0: end of message, bit 1: the next byte counts |
| 9      | termination character                              |
| 10, 11 | reserved, zero                                     |

`Envelope.bytes` writes the header, `Envelope.parse` reads it back and `Envelope.frame` adds the
payload and the zero bytes up to a multiple of four.
-/

namespace Benchtop.Wire

/-- The kinds of messages on the bulk endpoints. -/
inductive MessageKind where
  /-- Data for the device. -/
  | dataOut
  /-- The host asks for data. -/
  | requestIn
  /-- Data of the device. -/
  | dataIn
  | vendorOut
  | requestVendorIn
  | vendorIn
  /-- Trigger of the USB488 subclass. -/
  | trigger
  deriving DecidableEq, Repr

/-- The message id. A request and the data that answer it share one. -/
def MessageKind.id : MessageKind → UInt8
  | dataOut => 1
  | requestIn => 2
  | dataIn => 2
  | vendorOut => 126
  | requestVendorIn => 127
  | vendorIn => 127
  | trigger => 128

/-- The name of the kind in the protocol's tables. -/
def MessageKind.name : MessageKind → String
  | dataOut => "DEV_DEP_MSG_OUT"
  | requestIn => "REQUEST_DEV_DEP_MSG_IN"
  | dataIn => "DEV_DEP_MSG_IN"
  | vendorOut => "VENDOR_SPECIFIC_OUT"
  | requestVendorIn => "REQUEST_VENDOR_SPECIFIC_IN"
  | vendorIn => "VENDOR_SPECIFIC_IN"
  | trigger => "TRIGGER"

structure Envelope where
  kind : MessageKind
  tag : UInt8
  /-- Bytes of payload that follow the header, or the most that a request asks for. -/
  size : UInt32
  /-- The last part of its message. -/
  endOfMessage : Bool
  /-- The character after which the device ends its answer; of use in a request only. -/
  termChar : Option UInt8 := none
  deriving DecidableEq, Repr

/-- Why bytes are no envelope of the kind expected. -/
inductive EnvelopeError where
  | tooShort (length : Nat)
  | wrongKind (expected actual : UInt8)
  | badComplement (tag complement : UInt8)
  deriving DecidableEq, Repr

/-- Bytes of an envelope's header. -/
def headerSize : Nat := 12

def EnvelopeError.message : EnvelopeError → String
  | tooShort length => s!"Buffer too small: expected {headerSize}, got {length}"
  | wrongKind expected actual => s!"Unexpected message id: expected {expected}, got {actual}"
  | badComplement tag complement =>
    s!"Tag complement mismatch: tag {tag}, complement 0x{Text.hexByte complement}"

/-- The four bytes of a 32-bit number, least significant first. -/
def littleEndian (n : UInt32) : List UInt8 :=
  [n.toUInt8, (n >>> 8).toUInt8, (n >>> 16).toUInt8, (n >>> 24).toUInt8]

/-- The 32-bit number of four bytes, least significant first. -/
def ofLittleEndian (a b c d : UInt8) : UInt32 :=
  a.toUInt32 ||| b.toUInt32 <<< 8 ||| c.toUInt32 <<< 16 ||| d.toUInt32 <<< 24

namespace Envelope

/-- A request for at most `maxSize` bytes. -/
def request (tag : UInt8) (maxSize : UInt32) (termChar : Option UInt8) : Envelope :=
  ⟨.requestIn, tag, maxSize, false, termChar⟩

/-- The attribute byte. -/
def attributes (e : Envelope) : UInt8 :=
  (if e.endOfMessage then 1 else 0) ||| (if e.termChar.isSome then 2 else 0)

/-- The header. -/
def bytes (e : Envelope) : List UInt8 :=
  [e.kind.id, e.tag, ~~~e.tag, 0] ++ littleEndian e.size ++
    [e.attributes, e.termChar.getD 0, 0, 0]

@[simp] theorem length_bytes (e : Envelope) : e.bytes.length = headerSize := rfl

/-- Reads the header at the start of `data`, which must be of kind `expected`. Length, kind and
complement are checked in this order. -/
def parse (data : List UInt8) (expected : MessageKind) : Except EnvelopeError Envelope :=
  match data with
  | id :: tag :: complement :: _ :: s₀ :: s₁ :: s₂ :: s₃ :: attributes :: char :: _ :: _ :: _ =>
    if id ≠ expected.id then .error (.wrongKind expected.id id)
    else if complement ≠ ~~~tag then .error (.badComplement tag complement)
    else .ok
      { kind := expected
        tag
        size := ofLittleEndian s₀ s₁ s₂ s₃
        endOfMessage := attributes &&& 1 != 0
        termChar := if attributes &&& 2 != 0 then some char else none }
  | data => .error (.tooShort data.length)

/-- Zero bytes that bring a length to a multiple of four. -/
def padding (length : Nat) : List UInt8 := List.replicate ((4 - length % 4) % 4) 0

/-- Header, payload, and padding. -/
def frame (e : Envelope) (payload : List UInt8) : List UInt8 :=
  e.bytes ++ payload ++ padding (headerSize + payload.length)

end Envelope

end Benchtop.Wire
