import Benchtop.Session

/-!
# Reports

What the program prints about an instrument: a line for each in a list, and what is known of an open
one.
-/

namespace Benchtop.CommandLine

open Usb Wire

/-- The line of an instrument in a list. -/
def listLine (info : DeviceInfo) : String :=
  (Address.ofDevice info).toText ++ "  (bus " ++ info.busId ++ " address " ++
    toString info.address.toNat ++ ")\n"

def statusModeText : StatusMode → String
  | .interrupt endpoint => "ExtendedInterrupt(" ++ toString endpoint.toNat ++ ")"
  | .control => "ExtendedControl"
  | .basic => "Basic"

def endpointText : Option UInt8 → String
  | some endpoint => "Some(" ++ toString endpoint.toNat ++ ")"
  | none => "None"

def endpointsText (e : Endpoints) : String :=
  "out 0x" ++ Text.hexByte e.bulkOut ++ ", in 0x" ++ Text.hexByte e.bulkIn ++ ", interrupt " ++
    endpointText e.interruptIn

/-- A field of a record, on a line of its own. -/
def fieldLine (name value : String) : String := "    " ++ name ++ ": " ++ value ++ ",\n"

def flagText (b : Bool) : String := if b then "true" else "false"

/-- The capabilities as a record, with a field on each line. -/
def capabilitiesText (c : Capabilities) : String :=
  let extendedVersion := match c.extendedVersion with
    | some version => "Some(\n        " ++ toString version.toNat ++ ",\n    )"
    | none => "None"
  "CapabilitySet \x7b\n" ++
    fieldLine "protocol_version" (toString c.version.toNat) ++
    fieldLine "extended_protocol_version" extendedVersion ++
    fieldLine "supports_pulse" (flagText c.pulse) ++
    fieldLine "supports_talk_only" (flagText c.talkOnly) ++
    fieldLine "supports_listen_only" (flagText c.listenOnly) ++
    fieldLine "supports_term_char" (flagText c.termChar) ++
    fieldLine "supports_488_2" (flagText c.ieee4882) ++
    fieldLine "supports_remote_local" (flagText c.remoteLocal) ++
    fieldLine "supports_trigger" (flagText c.trigger) ++
    fieldLine "supports_scpi" (flagText c.scpi) ++
    fieldLine "supports_sr1" (flagText c.sr1) ++
    fieldLine "supports_rl1" (flagText c.rl1) ++
    fieldLine "supports_dt1" (flagText c.dt1) ++
    "\x7d"

/-- What is known of an open instrument. -/
def linkReport (link : Link) : String :=
  "Address:      " ++ (Address.ofDevice link.info).toText ++ "\n" ++
    "Quirks:       " ++ link.profile.name ++ "\n" ++
    "Status mode:  " ++ statusModeText link.statusMode ++ "\n" ++
    "Endpoints:    " ++ endpointsText link.endpoints ++ "\n" ++
    "Capabilities: " ++ capabilitiesText link.capabilities ++ "\n"

/-- What is known of the instrument of a session, if it is open. -/
def sessionReport (s : Session) : String :=
  match s.link? with
  | some link => linkReport link
  | none => ""

end Benchtop.CommandLine
