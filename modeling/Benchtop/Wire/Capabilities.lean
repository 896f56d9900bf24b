import Benchtop.Wire.Status

/-!
# Capabilities

What an interface can do, as its answer to the capability query tells. The answer has 24 bytes;
the first six are enough for a plain interface, sixteen are needed for one of the USB488 subclass,
whose fields are read for such an interface only.
-/

namespace Benchtop.Wire

structure Capabilities where
  /-- Protocol version, binary coded decimal. -/
  version : UInt16 := 0
  /-- Version of the USB488 subclass, on interfaces of that subclass. -/
  extendedVersion : Option UInt16 := none
  pulse : Bool := false
  talkOnly : Bool := false
  listenOnly : Bool := false
  termChar : Bool := false
  ieee4882 : Bool := false
  /-- Remote enable, go to local and local lockout are accepted. -/
  remoteLocal : Bool := false
  /-- The trigger message is accepted. -/
  trigger : Bool := false
  scpi : Bool := false
  sr1 : Bool := false
  rl1 : Bool := false
  dt1 : Bool := false
  deriving DecidableEq, Repr

/-- Why an answer tells no capabilities. -/
inductive CapabilityError where
  | truncated (length : Nat)
  | refused (status : Status)
  deriving DecidableEq, Repr

/-- The 16-bit number of two bytes, least significant first. -/
def wordOf (low high : UInt8) : UInt16 := low.toUInt16 ||| high.toUInt16 <<< 8

/-- Whether a bit of `mask` is set. -/
def hasBit (byte mask : UInt8) : Bool := byte &&& mask != 0

namespace Capabilities

/-- The interface is of the USB488 subclass. -/
def isExtended (c : Capabilities) : Bool := c.extendedVersion.isSome

/-- The fields that every interface has. -/
def plainFields (low high interfaceBits deviceBits : UInt8) : Capabilities :=
  { version := wordOf low high
    pulse := hasBit interfaceBits 4
    talkOnly := hasBit interfaceBits 2
    listenOnly := hasBit interfaceBits 1
    termChar := hasBit deviceBits 1 }

/-- The fields of the USB488 subclass, added to `c`. -/
def withExtendedFields (c : Capabilities) (low high interfaceBits deviceBits : UInt8) :
    Capabilities :=
  { c with
    extendedVersion := some (wordOf low high)
    ieee4882 := hasBit interfaceBits 4
    remoteLocal := hasBit interfaceBits 2
    trigger := hasBit interfaceBits 1
    scpi := hasBit deviceBits 8
    sr1 := hasBit deviceBits 4
    rl1 := hasBit deviceBits 2
    dt1 := hasBit deviceBits 1 }

/-- The capabilities of an interface of the USB488 subclass (`usb488`) or a plain one, from its
answer. -/
def parse (data : List UInt8) (usb488 : Bool) : Except CapabilityError Capabilities :=
  match data with
  | [] => .error (.truncated 0)
  | code :: rest =>
    let status := Status.ofCode code
    if status ≠ .success then .error (.refused status)
    else
      match rest with
      | _ :: low :: high :: interfaceBits :: deviceBits :: more =>
        let plain := plainFields low high interfaceBits deviceBits
        if !usb488 then .ok plain
        else
          match more with
          | _ :: _ :: _ :: _ :: _ :: _ :: low :: high :: interfaceBits :: deviceBits :: _ =>
            .ok (plain.withExtendedFields low high interfaceBits deviceBits)
          | _ => .error (.truncated data.length)
      | _ => .error (.truncated data.length)

end Capabilities

end Benchtop.Wire
