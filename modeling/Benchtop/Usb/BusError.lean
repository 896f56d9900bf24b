import Benchtop.Duration
import Benchtop.Text.Digits

/-!
# Failures of the bus

What goes wrong below the protocol. The driver of an instrument passes these on as they are.
-/

namespace Benchtop.Usb

inductive BusError where
  | deviceNotFound (vendor product : UInt16)
  | openFailed (reason : String)
  | claimFailed (interface : UInt8) (reason : String)
  | stalled (endpoint : UInt8)
  | transferFailed (reason : String)
  | disconnected
  | timedOut (millis : UInt64)
  | io (reason : String)
  deriving DecidableEq, Repr

namespace BusError

def message : BusError → String
  | deviceNotFound vendor product =>
    s!"Device not found: VID={Text.hexWord vendor} PID={Text.hexWord product}"
  | openFailed reason => s!"Failed to open device: {reason}"
  | claimFailed interface reason => s!"Failed to claim interface {interface}: {reason}"
  | stalled endpoint => s!"Endpoint 0x{Text.hexByte endpoint} stalled"
  | transferFailed reason => s!"Transfer failed: {reason}"
  | disconnected => "Device disconnected"
  | timedOut millis => s!"Timeout after {millis}ms"
  | io reason => s!"IO error: {reason}"

def isTimeout : BusError → Bool
  | timedOut _ => true
  | _ => false

/-- The failure of a call that was given `limit` and took longer. -/
def ofTimeout (limit : Duration) : BusError := timedOut limit.millis

/-- The failure of a transfer on a device of which no interface is claimed. -/
def notClaimed : BusError := transferFailed "interface not claimed"

end BusError

end Benchtop.Usb
