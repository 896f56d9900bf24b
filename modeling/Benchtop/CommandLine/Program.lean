import Benchtop.CommandLine.Arguments
import Benchtop.CommandLine.Report
import Benchtop.Settings.File

/-!
# The program

One run of the program on a bus: settings, instrument, open, the command, close. What has been
printed stays printed when a later step fails, and an instrument that was opened is handed back
whatever happens.
-/

namespace Benchtop.CommandLine

open Usb

variable {σ : Type}

/-! ## Errors -/

inductive ProgramError where
  /-- The settings file cannot be used. -/
  | settings (path : String)
  | noInstruments
  | severalInstruments (count : Nat)
  | noVendorId
  | failure (cause : Failure)
  deriving DecidableEq, Repr

/-- The text of what lies under a failure, where its message is not all there is. -/
def causeText : Failure → Option String
  | .badEnvelope e => some e.message
  | .bus (.io reason) => some reason
  | _ => none

def ProgramError.message : ProgramError → String
  | settings path => "loading " ++ path
  | noInstruments => "No instruments attached"
  | severalInstruments count =>
    toString count ++ " instruments attached; pick one with --resource"
  | noVendorId => "Device did not report an id"
  | failure cause =>
    match causeText cause with
    | some text => cause.message ++ ": " ++ text
    | none => cause.message

/-- How a run ends: the exit status, what was printed, and the error. -/
structure RunResult where
  exit : Nat
  output : List UInt8 := []
  error : Option ProgramError := none
  deriving DecidableEq, Repr

def RunResult.success (output : List UInt8) : RunResult := ⟨0, output, none⟩

def RunResult.failed (output : List UInt8) (error : ProgramError) : RunResult :=
  ⟨1, output, some error⟩

/-! ## Before an instrument is open -/

/-- The settings of a run. `content` is that of the settings file, if it can be read. -/
def settingsFor (library : Settings.Library) (invocation : Invocation)
    (content : Option (List UInt8)) : Except ProgramError Settings := do
  let settings ←
    match invocation.config with
    | none => pure {}
    | some path =>
      match content.map (Settings.ofBytes library) with
      | some (.ok settings) => pure settings
      | _ => throw (.settings path)
  match invocation.timeoutMs with
  | some timeoutMs => return { settings with timeoutMs }
  | none => return settings

/-- The resource of a run: the one named, or the only instrument there is. -/
def pickResource (bus : Bus σ) (name : Option String) :
    ExceptT ProgramError (StateM σ) Resource := do
  match name with
  | some name => return .named name
  | none =>
    match ← (listDevices bus).adapt ProgramError.failure with
    | [] => throw .noInstruments
    | [info] => return .attached info
    | several => throw (.severalInstruments several.length)

/-- Lists the instruments. -/
def runList (bus : Bus σ) : StateM σ RunResult := fun s =>
  match (listDevices bus).run s with
  | (.ok infos, s) => (.success (Text.bytesOf (String.join (infos.map listLine))), s)
  | (.error e, s) => (.failed [] (.failure e), s)

/-! ## With an open instrument -/

/-- What is printed of an answer: its bytes, or its text on a line. -/
def printed (answer : List UInt8) (raw : Bool) : List UInt8 :=
  if raw then answer else Text.encode (Text.responseText answer ++ ['\n'])

/-- Makes a command, and gives what it prints. -/
def DeviceCommand.perform (bus : Bus σ) :
    DeviceCommand → ExceptT ProgramError (StateM (Bench σ)) (List UInt8)
  | .info => return Text.bytesOf (sessionReport (← get).session)
  | .write text => silent (Session.write bus text)
  | .read raw => return printed (← (Session.readRaw bus).adapt .failure) raw
  | .ask text raw => return printed (← (Session.askRaw bus (Text.bytesOf text)).adapt .failure) raw
  | .stb => do
    let status ← (Session.onLink bus Link.readStatusByte).adapt .failure
    return Text.bytesOf ("0x" ++ Text.hexByte status ++ "\n")
  | .clear => silent (Session.onLink bus Link.clear)
  | .trigger => silent (Session.onLink bus Link.trigger)
  | .pulse => silent (do let _ ← Session.onLink bus Link.pulse)
  | .lock => silent (Session.onLink bus Link.lock)
  | .unlock => silent (Session.onLink bus Link.unlock)
  | .myid => do
    match ← (Session.onLink bus Link.readVendorId).adapt .failure with
    | some id => return Text.bytesOf (toString id.toNat ++ "\n")
    | none => throw .noVendorId
where
  /-- An operation that prints nothing. -/
  silent (action : Action (Bench σ) Unit) :
      ExceptT ProgramError (StateM (Bench σ)) (List UInt8) := do
    action.adapt .failure
    return []

/-- Opens an instrument, makes the command and closes it. -/
def runDevice (bus : Bus σ) (settings : Settings) (resource : Resource) (command : DeviceCommand) :
    StateM σ RunResult := fun s =>
  match (Session.openUp bus).run ⟨{ resource, settings }, s⟩ with
  | (.error e, b) => (.failed [] (.failure e), b.bus)
  | (.ok (), b) =>
    match (command.perform bus).run b with
    | (.error e, b) => (.failed [] e, (Session.drop bus b).2.bus)
    | (.ok output, b) =>
      match (Session.close bus).run b with
      | (.ok (), b) => (.success output, b.bus)
      | (.error e, b) => (.failed output (.failure e), b.bus)

/-- Runs the program. `content` is that of the settings file, if it can be read. -/
def Invocation.run (library : Settings.Library) (bus : Bus σ) (invocation : Invocation) (content : Option (List UInt8)) :
    StateM σ RunResult := fun s =>
  match invocation.command with
  | .list => runList bus s
  | .device command =>
    match settingsFor library invocation content with
    | .error e => (.failed [] e, s)
    | .ok settings =>
      match (pickResource bus invocation.resource).run s with
      | (.error e, s) => (.failed [] e, s)
      | (.ok resource, s) => runDevice bus settings resource command s

/-- Runs the program with its arguments. `content` gives the content of a file that can be read. -/
def program (library : Settings.Library) (bus : Bus σ) (content : String → Option (List UInt8))
    (arguments : List String) : StateM σ RunResult :=
  match parse arguments with
  | .error (.shows text) => return .success (Text.bytesOf text)
  | .error .refused => return ⟨2, [], none⟩
  | .ok invocation => invocation.run library bus (invocation.config.bind content)

end Benchtop.CommandLine
