/-!
# Devices as the bus describes them

`DeviceInfo` is what enumeration tells of an attached device; `Configuration`, `Interface` and
`Endpoint` are the descriptors of an opened one.
-/

namespace Benchtop.Usb

/-- The direction of an endpoint, seen from the host. -/
inductive Direction where
  | input
  | output
  deriving DecidableEq, Repr

inductive TransferKind where
  | control
  | isochronous
  | bulk
  | interrupt
  deriving DecidableEq, Repr

structure Endpoint where
  address : UInt8
  kind : TransferKind
  direction : Direction
  maxPacketSize : Nat
  deriving DecidableEq, Repr

/-- One alternate setting of an interface. -/
structure Interface where
  number : UInt8
  alternate : UInt8
  classCode : UInt8
  subclass : UInt8
  protocol : UInt8
  endpoints : List Endpoint
  deriving DecidableEq, Repr

structure Configuration where
  value : UInt8
  interfaces : List Interface
  deriving DecidableEq, Repr

/-- The class of one interface, as enumeration tells it. -/
structure InterfaceClass where
  number : UInt8
  classCode : UInt8
  subclass : UInt8
  protocol : UInt8
  deriving DecidableEq, Repr

/-- An attached device before it is opened. -/
structure DeviceInfo where
  vendor : UInt16
  product : UInt16
  serial : Option String
  busId : String
  address : UInt8
  interfaces : List InterfaceClass
  deriving DecidableEq, Repr

/-- Two descriptions of one physical device: same bus, same address. -/
def DeviceInfo.sameLocation (a b : DeviceInfo) : Bool :=
  a.busId == b.busId && a.address == b.address

/-- The class code of test and measurement interfaces. -/
def instrumentClass : UInt8 := 0xFE

/-- The subclass code of test and measurement interfaces. -/
def instrumentSubclass : UInt8 := 0x03

/-- The interface protocol of the USB488 subclass. -/
def usb488Protocol : UInt8 := 0x01

def Interface.isInstrument (i : Interface) : Bool :=
  i.classCode == instrumentClass && i.subclass == instrumentSubclass

def InterfaceClass.isInstrument (i : InterfaceClass) : Bool :=
  i.classCode == instrumentClass && i.subclass == instrumentSubclass

/-- The address of the first endpoint of a kind and direction. -/
def Interface.endpoint? (i : Interface) (kind : TransferKind) (direction : Direction) :
    Option UInt8 :=
  (i.endpoints.find? fun e => e.kind == kind && e.direction == direction).map (·.address)

/-- What enumeration tells of an interface. -/
def Interface.summary (i : Interface) : InterfaceClass :=
  ⟨i.number, i.classCode, i.subclass, i.protocol⟩

end Benchtop.Usb
