import Benchtop.Resource.Address

/-!
# Resources

Anything an instrument can be opened from: ids, some of which may be left open, a text (an address,
or the shorthand `vendor:product[:serial]` in hexadecimal), or a device that has been enumerated.
What a resource asks of a device is its `Selector`.
-/

namespace Benchtop

open Text Usb

inductive Resource where
  | ids (vendor product : Option UInt16) (serial : Option String)
  /-- An address or the shorthand. -/
  | named (text : String)
  | attached (info : DeviceInfo)
  deriving DecidableEq, Repr

namespace Resource

/-- The resource of an address. -/
def ofAddress (a : Address) : Resource := ids (some a.vendor) (some a.product) a.serial

/-- The resource of a vendor and a product id. -/
def ofIds (vendor product : UInt16) : Resource := ofAddress ⟨vendor, product, none⟩

/-- The resource of a vendor and a product id and a serial number. -/
def ofIdsAndSerial (vendor product : UInt16) (serial : String) : Resource :=
  ofAddress ⟨vendor, product, some serial⟩

/-- How a resource is shown: ids in the form of the shorthand with a star for what is left open,
a text as it is, a device by its address. -/
def describe : Resource → String
  | ids vendor product serial =>
    (match vendor with | some v => hexWordLower v | none => "*") ++ ":" ++
      (match product with | some p => hexWordLower p | none => "*") ++
      (match serial with | some s => ":" ++ s | none => "")
  | named text => text
  | attached info => (Address.ofDevice info).toText

end Resource

/-- What is asked of a device. -/
structure Selector where
  vendor : UInt16
  product : Option UInt16
  serial : Option String
  deriving DecidableEq, Repr

namespace Selector

def ofAddress (a : Address) : Selector := ⟨a.vendor, some a.product, a.serial⟩

/-- Whether a text holds two colons in a row, which makes it an address. -/
def hasPair : List Char → Bool
  | ':' :: ':' :: _ => true
  | _ :: rest => hasPair rest
  | [] => false

/-- The selector of the shorthand, whose empty serial number is as good as none. -/
def parseShorthand? (text : List Char) : Option Selector :=
  match splitAtColons (trim text) with
  | [vendor, product] => do return ⟨← readId 16 vendor, some (← readId 16 product), none⟩
  | [vendor, product, serial] => do
    return ⟨← readId 16 vendor, some (← readId 16 product),
      if serial.isEmpty then none else some (String.ofList serial)⟩
  | _ => none

/-- The selector of an address or the shorthand. -/
def parse (text : String) : Except Failure Selector :=
  if hasPair text.toList then (Address.parse text).map ofAddress
  else
    match parseShorthand? text.toList with
    | some selector => .ok selector
    | none => .error (.invalidResource text)

/-- Whether a device is what is asked for. Product ids agree when those in normal use do. -/
def selects (s : Selector) (info : DeviceInfo) : Bool :=
  info.vendor == s.vendor &&
    (match s.product with
      | some product => normalProduct info.vendor info.product == normalProduct s.vendor product
      | none => true) &&
    (match s.serial with
      | some serial => info.serial == some serial
      | none => true)

end Selector

/-- Whether a device is the one of an address. -/
def Address.selects (a : Address) (info : DeviceInfo) : Bool := (Selector.ofAddress a).selects info

end Benchtop
