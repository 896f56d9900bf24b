import Benchtop.Duration

/-!
# Settings of a session

Timeouts, limits and switches, with their defaults. The settings file is read and written in the
modules beside this one.
-/

namespace Benchtop

structure Settings where
  /-- Milliseconds for a transfer or an ordinary request. -/
  timeoutMs : UInt64 := 5000
  /-- Milliseconds for the requests of an abort or a clear. -/
  abortTimeoutMs : UInt64 := 5000
  /-- Milliseconds to wait before a status poll. Waiting changes nothing that a device answers. -/
  pollIntervalMs : UInt64 := 100
  /-- Status polls before an abort or a clear gives up; 0 counts as 1. -/
  maxStatusPolls : UInt32 := 50
  /-- Most bytes of payload in one envelope; 0 counts as 1. -/
  maxTransferSize : UInt32 := 1048576
  /-- The character at which the device ends an answer, where it supports that. -/
  termChar : Option UInt8 := none
  /-- Set the configuration even when one is active. -/
  forceReconfigure : Bool := false
  /-- Lock out local control after taking remote control. -/
  localLockout : Bool := false
  deriving DecidableEq, Repr

namespace Settings

def timeout (s : Settings) : Duration := .ofMillis s.timeoutMs

def abortTimeout (s : Settings) : Duration := .ofMillis s.abortTimeoutMs

end Settings

end Benchtop
