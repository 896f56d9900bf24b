/-!
# Vendor profiles

How the instruments of some vendors depart from the standard, by vendor id: which messages may be
split, how answers are framed, whether the front panel can be locked, and which product ids and
interface classes are taken for another.
-/

namespace Benchtop

/-- The behaviour of an instrument, fixed by its vendor. -/
inductive Profile where
  | standard
  /-- Answers come as IEEE 488.2 blocks whose envelopes understate the size, and messages must
  not be split. -/
  | ieeeBlock
  /-- The front panel can be locked and a diagnostic id read. -/
  | lockable
  deriving DecidableEq, Repr

namespace Profile

def ofVendor (vendor : UInt16) : Profile :=
  if vendor = 0x1AB1 then ieeeBlock
  else if vendor = 0x1334 then lockable
  else standard

def name : Profile → String
  | standard => "standard"
  | ieeeBlock => "ieee-block"
  | lockable => "lockable"

/-- Long messages may be split over several envelopes. -/
def splitsMessages : Profile → Bool
  | ieeeBlock => false
  | _ => true

def readsBlocks : Profile → Bool
  | ieeeBlock => true
  | _ => false

theorem splitsMessages_iff {p : Profile} : p.splitsMessages ↔ p ≠ ieeeBlock := by
  cases p <;> decide

theorem readsBlocks_iff {p : Profile} : p.readsBlocks ↔ p = ieeeBlock := by
  cases p <;> decide

def isLockable : Profile → Bool
  | lockable => true
  | _ => false

end Profile

/-- The product ids that modules of vendor `0957` have while their firmware is updated, each with
the id in normal use. -/
def updateModeProducts : List (UInt16 × UInt16) :=
  [(0x2818, 0x2918), (0x4218, 0x4118), (0x4418, 0x4318)]

/-- The product id in normal use. -/
def normalProduct (vendor product : UInt16) : UInt16 :=
  if vendor = 0x0957 then (updateModeProducts.lookup product).getD product else product

def isUpdateMode (vendor product : UInt16) : Bool := normalProduct vendor product != product

/-- Devices that are instruments whatever class their interfaces have. -/
def isAllowListed (vendor product : UInt16) : Bool :=
  vendor == 0x1334 || isUpdateMode vendor product

end Benchtop
