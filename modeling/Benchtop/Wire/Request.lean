/-!
# Control requests

The control requests of the test and measurement class, of its USB488 subclass, and of the
instruments with a front panel lock: the code that goes over the wire and the name under which
the protocol's tables list it.
-/

namespace Benchtop.Wire

inductive Request where
  | initiateAbortOut
  | checkAbortOut
  | initiateAbortIn
  | checkAbortIn
  | initiateClear
  | checkClear
  | getCapabilities
  | indicatorPulse
  /-- Of the USB488 subclass, as the next three. -/
  | readStatusByte
  /-- Value 1 takes remote control, 0 gives it back. -/
  | remoteEnable
  | goToLocal
  | localLockout
  /-- Of lockable instruments: value 1 locks the front panel, 0 unlocks it. -/
  | frontPanelLock
  /-- Of lockable instruments: reads the diagnostic id. -/
  | diagnosticId
  deriving DecidableEq, Repr

namespace Request

def code : Request → UInt8
  | initiateAbortOut => 1
  | checkAbortOut => 2
  | initiateAbortIn => 3
  | checkAbortIn => 4
  | initiateClear => 5
  | checkClear => 6
  | getCapabilities => 7
  | indicatorPulse => 64
  | readStatusByte => 128
  | remoteEnable => 160
  | goToLocal => 161
  | localLockout => 162
  | frontPanelLock => 0xA0
  | diagnosticId => 0xF5

def name : Request → String
  | initiateAbortOut => "INITIATE_ABORT_BULK_OUT"
  | checkAbortOut => "CHECK_ABORT_BULK_OUT_STATUS"
  | initiateAbortIn => "INITIATE_ABORT_BULK_IN"
  | checkAbortIn => "CHECK_ABORT_BULK_IN_STATUS"
  | initiateClear => "INITIATE_CLEAR"
  | checkClear => "CHECK_CLEAR_STATUS"
  | getCapabilities => "GET_CAPABILITIES"
  | indicatorPulse => "INDICATOR_PULSE"
  | readStatusByte => "READ_STATUS_BYTE"
  | remoteEnable => "REN_CONTROL"
  | goToLocal => "GO_TO_LOCAL"
  | localLockout => "LOCAL_LOCKOUT"
  | frontPanelLock => "LOCK"
  | diagnosticId => "MYID"

end Request

/-- The procedures that start with one request and then poll another until the device is done. -/
inductive Procedure where
  | abortOut
  | abortIn
  | clear
  deriving DecidableEq, Repr

def Procedure.name : Procedure → String
  | abortOut => "ABORT_BULK_OUT"
  | abortIn => "ABORT_BULK_IN"
  | clear => "CLEAR"

end Benchtop.Wire
