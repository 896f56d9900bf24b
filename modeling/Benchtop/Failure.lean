import Benchtop.Text.Quoted
import Benchtop.Usb.BusError
import Benchtop.Usb.Descriptor
import Benchtop.Wire.Capabilities
import Benchtop.Wire.Envelope
import Benchtop.Wire.Request

/-!
# Failures of an operation

Every way in which an operation on an instrument fails, by its cause. `Failure.message` gives the
wording and `Failure.code?` the status code of the device where there is one. A failure of the bus
is carried as it is.
-/

namespace Benchtop

open Usb Wire

/-- What a device or a request lacks. -/
inductive Unsupported where
  | noConfigurations
  | configurationNotDescribed (value : UInt8)
  | noInstrumentInterface (vendor product : UInt16)
  | remoteLocal
  /-- The operation is one of lockable instruments. -/
  | frontPanel (operation : String) (vendor product : UInt16)
  deriving DecidableEq, Repr

/-- What is wrong with an answer of the device. -/
inductive BadAnswer where
  /-- The answer to a request or procedure is empty. -/
  | noData (what : String)
  | tooShort (what : String) (expected : Nat)
  | capabilitiesTruncated (length : Nat)
  /-- A transfer brought nothing although bytes of the message are missing. -/
  | endedEarly (received need : Nat)
  /-- The answer to `*STB?` is no number below 256. -/
  | noStatusByte (text : String)
  deriving DecidableEq, Repr

inductive Failure where
  | invalidResource (text : String)
  | notFound (resource : String)
  | ambiguous (resource : String) (count : Nat)
  | notSupported (what : Unsupported)
  /-- The interface has no bulk endpoint in this direction. -/
  | missingEndpoint (interface : UInt8) (direction : Direction)
  | badEnvelope (error : EnvelopeError)
  | tagMismatch (expected actual : UInt8)
  | statusReadFailed (code : UInt8)
  | clearFailed (code : UInt8)
  | requestFailed (request : Request) (code : UInt8)
  /-- The device was still at work after so many polls. -/
  | unfinished (procedure : Procedure) (polls : Nat)
  | badAnswer (answer : BadAnswer)
  | notOpen
  | bus (error : BusError)
  /-- The device supplies data without end: the message has no last envelope. -/
  | oversupplied
  deriving DecidableEq, Repr

def Unsupported.message : Unsupported → String
  | noConfigurations => "device has no configurations"
  | configurationNotDescribed value => s!"configuration {value} not described"
  | noInstrumentInterface vendor product =>
    s!"{Text.hexWord vendor}:{Text.hexWord product} has no USBTMC interface"
  | remoteLocal => "remote/local control"
  | frontPanel operation vendor product =>
    s!"{operation} on {Text.hexWord vendor}:{Text.hexWord product}"

def BadAnswer.message : BadAnswer → String
  | noData what => s!"{what} returned no data"
  | tooShort what expected => s!"{what} shorter than {expected} bytes"
  | capabilitiesTruncated length => s!"GET_CAPABILITIES returned {length} bytes"
  | endedEarly received need => s!"message ended after {received} of {need} bytes"
  | noStatusByte text => s!"*STB? returned {Text.quoted text.toList}"

namespace Failure

/-- The word for a direction in a diagnostic. -/
def directionName : Direction → String
  | .input => "IN"
  | .output => "OUT"

def message : Failure → String
  | invalidResource text => s!"Invalid resource: {text}"
  | notFound resource => s!"No device matches {resource}"
  | ambiguous resource count => s!"{count} devices match {resource}; add a serial number"
  | notSupported what => s!"Not supported: {what.message}"
  | missingEndpoint interface direction =>
    s!"Interface {interface} has no bulk {directionName direction} endpoint"
  | badEnvelope error => s!"Bad envelope: {error.message}"
  | tagMismatch expected actual =>
    s!"Tag mismatch: expected 0x{Text.hexByte expected}, got 0x{Text.hexByte actual}"
  | statusReadFailed code => s!"Read status byte failed: status 0x{Text.hexByte code}"
  | clearFailed code => s!"Clear failed: status 0x{Text.hexByte code}"
  | requestFailed request code => s!"{request.name} failed: status 0x{Text.hexByte code}"
  | unfinished procedure polls => s!"{procedure.name} still pending after {polls} polls"
  | badAnswer answer => s!"Invalid response: {answer.message}"
  | notOpen => "Session is not open"
  | bus error => error.message
  | oversupplied => "The message has no end"

/-- The status code of the device, where the failure is one of a status, a clear or a request. -/
def code? : Failure → Option UInt8
  | statusReadFailed code => some code
  | clearFailed code => some code
  | requestFailed _ code => some code
  | _ => none

def isTimeout : Failure → Bool
  | bus error => error.isTimeout
  | _ => false

/-- The failure of an open whose capability answer cannot be used. -/
def ofCapabilityError : CapabilityError → Failure
  | .refused status => requestFailed .getCapabilities status.code
  | .truncated length => badAnswer (.capabilitiesTruncated length)

end Failure

end Benchtop
