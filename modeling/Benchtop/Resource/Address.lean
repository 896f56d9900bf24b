import Benchtop.Failure
import Benchtop.Profile
import Benchtop.Text.Blank
import Benchtop.Text.Digits

/-!
# Instrument addresses

An address names an instrument by vendor, product and perhaps serial number. It is printed as
`USB::0x0957::0x1755::INSTR` or `USB::0x0957::0x1755::serial::INSTR`; the reader also takes a board
number after `USB`, any case of the two words, decimal ids and blanks around the ids.
-/

namespace Benchtop

open Text Usb

structure Address where
  vendor : UInt16
  product : UInt16
  serial : Option String := none
  deriving DecidableEq, Repr

/-! ## Reading -/

/-- The parts of a text between colons in pairs, paired from the left. -/
def splitAtPairs : List Char → List (List Char)
  | [] => [[]]
  | ':' :: ':' :: rest => [] :: splitAtPairs rest
  | c :: rest => (splitAtPairs rest).modifyHead (c :: ·)

/-- The parts of a text between single colons. -/
def splitAtColons : List Char → List (List Char)
  | [] => [[]]
  | ':' :: rest => [] :: splitAtColons rest
  | c :: rest => (splitAtColons rest).modifyHead (c :: ·)

/-- An id with blanks around it: hexadecimal after `0x` or `0X`, else in base `base`. -/
def readId (base : Nat) (text : List Char) : Option UInt16 :=
  let value? := match trim text with
    | '0' :: 'x' :: digits => readUnsigned 16 65535 digits
    | '0' :: 'X' :: digits => readUnsigned 16 65535 digits
    | digits => readUnsigned base 65535 digits
  value?.map UInt16.ofNat

/-- `USB` in any case, and the number of a board. -/
def isBoard : List Char → Bool
  | u :: s :: b :: digits =>
    u.toUpper == 'U' && s.toUpper == 'S' && b.toUpper == 'B' && digits.all Char.isDigit
  | _ => false

/-- `INSTR` in any case. -/
def isInstrSuffix (text : List Char) : Bool := text.map Char.toUpper == "INSTR".toList

namespace Address

/-- The address in a text, if it is one. -/
def parse? (text : String) : Option Address :=
  match splitAtPairs (trim text.toList) with
  | [board, vendor, product, suffix] =>
    if isBoard board && isInstrSuffix suffix then do
      return ⟨← readId 10 vendor, ← readId 10 product, none⟩
    else none
  | [board, vendor, product, serial, suffix] =>
    if isBoard board && isInstrSuffix suffix && !serial.isEmpty then do
      return ⟨← readId 10 vendor, ← readId 10 product, some (String.ofList serial)⟩
    else none
  | _ => none

/-- The address in a text, or a failure that shows the text. -/
def parse (text : String) : Except Failure Address :=
  match parse? text with
  | some address => .ok address
  | none => .error (.invalidResource text)

/-! ## Printing -/

/-- The printed form. -/
def toText (a : Address) : String :=
  let serial := match a.serial with
    | some serial => "::" ++ serial
    | none => ""
  "USB::0x" ++ hexWord a.vendor ++ "::0x" ++ hexWord a.product ++ serial ++ "::INSTR"

/-- The address of an attached device, with the product id in normal use. -/
def ofDevice (info : DeviceInfo) : Address :=
  ⟨info.vendor, normalProduct info.vendor info.product, info.serial⟩

end Address

end Benchtop
