import Benchtop.CommandLine.Program
import Benchtop.Proofs.Host.Return
import Benchtop.Settings.Toml

/-!
# The program gives back what it takes

A run of the program with an instrument is a run of its session: it is opened, the operation of the
command is made, and it is closed (`DeviceCommand.operations`). The program leaves out what comes after a
failure, and drops the session instead; on the bus that is the same, since a session that could not be
opened refuses every operation without asking for anything, and a dropped session is closed
(`bus_runDevice`). So what is known of sessions holds of the program.

Main statement: whatever the arguments, the devices and the failures of the host, nothing is held on the
host after a run, every claim has been released and every driver that was detached has been offered back.
The command `list` lists the devices and does nothing else. The exit status is 0 exactly when every step
has succeeded (`returns_program`).
-/

namespace Benchtop.CommandLine

open Usb Session

variable {σ : Type} {library : Settings.Library} {bus : Bus σ}

/-! ## The operations of a run -/

/-- The operation that a command is made by. The command `info` needs none: it shows what is known. -/
def DeviceCommand.operation? : DeviceCommand → Option Operation
  | .info => none
  | .write text => some (.write text)
  | .read _ => some .readRaw
  | .ask text _ => some (.askRaw (Text.bytesOf text))
  | .stb => some .readStatusByte
  | .clear => some .clear
  | .trigger => some .trigger
  | .pulse => some .pulse
  | .lock => some .lock
  | .unlock => some .unlock
  | .myid => some .readVendorId

/-- The operations of a run with a command. -/
def DeviceCommand.operations (command : DeviceCommand) : List Operation :=
  .openUp :: (command.operation?.toList ++ [.close])

/-- An operation has given an answer. That a device has no diagnostic id to report is none. -/
def Answered (outcome : Except Failure Answer) : Prop :=
  ∃ answer, outcome = .ok answer ∧ answer ≠ .byte? none

/-- Operations that are made one after the other are all answered. -/
def AllAnswered (bus : Bus σ) : List Operation → Bench σ → Prop
  | [], _ => True
  | operation :: operations, b =>
    Answered (operation.perform bus b).1 ∧ AllAnswered bus operations (operation.perform bus b).2

/-- These are the settings of a run: the defaults if no settings file is named, or what the file that is named
is read as, with the timeout that is given. -/
def Invocation.Loads (library : Settings.Library) (invocation : Invocation)
    (content : Option (List UInt8)) (settings : Settings) : Prop :=
  ∃ loaded : Settings,
    (invocation.config = none ∧ loaded = {} ∨
      invocation.config ≠ none ∧ ∃ bytes, content = some bytes ∧ Settings.ofBytes library bytes = .ok loaded) ∧
    settings = { loaded with timeoutMs := invocation.timeoutMs.getD loaded.timeoutMs }

/-- All that a run of the program sets out to do succeeds. -/
def Invocation.Succeeds (library : Settings.Library) (bus : Bus σ) (invocation : Invocation)
    (content : Option (List UInt8)) (s : σ) : Prop :=
  match invocation.command with
  | .list => ∃ infos, (listDevices bus s).1 = .ok infos
  | .device command =>
    ∃ settings resource, invocation.Loads library content settings ∧
      (pickResource bus invocation.resource s).1 = .ok resource ∧
        AllAnswered bus command.operations
          ⟨{ resource, settings }, (pickResource bus invocation.resource s).2⟩

/-! ## Commands -/

/-- A command does to a bench what an operation does, and succeeds if that is answered. -/
def MadeBy (command : ExceptT ProgramError (StateM (Bench σ)) (List UInt8))
    (operation : Action (Bench σ) Answer) : Prop :=
  ∀ b, (command b).2 = (operation b).2 ∧
    ((∃ output, (command b).1 = .ok output) ↔ Answered (operation b).1)

/-- What is printed of an answer does not touch the bench. -/
theorem madeBy_bind {α : Type} (action : Action (Bench σ) α) (answer : α → Answer)
    {print : α → ExceptT ProgramError (StateM (Bench σ)) (List UInt8)}
    (h : ∀ a b, (print a b).2 = b ∧ ((∃ output, (print a b).1 = .ok output) ↔ answer a ≠ .byte? none)) :
    MadeBy (action.adapt .failure >>= print) (do return answer (← action)) := by
  intro b
  rw [bind_apply, bind_apply, adapt_apply]
  rcases action b with ⟨e | a, b'⟩
  · exact ⟨rfl, nofun, nofun⟩
  · obtain ⟨hbench, hprinted⟩ := h a b'
    refine ⟨hbench, hprinted.trans ⟨fun hne => ⟨_, rfl, hne⟩, ?_⟩⟩
    rintro ⟨_, heq, hne⟩
    cases heq
    exact hne

theorem madeBy_pure {α : Type} (action : Action (Bench σ) α) (answer : α → Answer)
    (print : α → List UInt8) (h : ∀ a, answer a ≠ .byte? none) :
    MadeBy (do return print (← action.adapt .failure)) (do return answer (← action)) :=
  madeBy_bind action answer fun a _ => ⟨rfl, fun _ => h a, fun _ => ⟨_, rfl⟩⟩

theorem madeBy_silent (action : Action (Bench σ) Unit) :
    MadeBy (DeviceCommand.perform.silent action) (do action; return .done) :=
  madeBy_pure action (fun _ => .done) (fun _ => []) nofun

theorem madeBy_perform (bus : Bus σ) {command : DeviceCommand} {operation : Operation}
    (h : command.operation? = some operation) :
    MadeBy (command.perform bus) (operation.perform bus) := by
  cases command <;> cases h
  case write text => exact madeBy_silent _
  case read raw => exact madeBy_pure _ _ _ nofun
  case ask text raw => exact madeBy_pure _ _ _ nofun
  case stb => exact madeBy_pure _ _ _ nofun
  case pulse =>
    have hpulse : DeviceCommand.pulse.perform bus = do
        let _ ← (onLink bus Link.pulse).adapt .failure
        return [] := by
      funext b
      simp only [DeviceCommand.perform, DeviceCommand.perform.silent, bind_apply, adapt_apply]
      rcases onLink bus Link.pulse b with ⟨e | _, b'⟩ <;> rfl
    rw [hpulse]
    exact madeBy_pure _ _ _ nofun
  case myid =>
    refine madeBy_bind _ _ fun id? b => ?_
    cases id? with
    | none => exact ⟨rfl, nofun, fun h => absurd rfl h⟩
    | some id => exact ⟨rfl, nofun, fun _ => ⟨_, rfl⟩⟩
  all_goals exact madeBy_silent _

/-- A command is the operation it is made by, if it needs one. -/
theorem perform_command (bus : Bus σ) (command : DeviceCommand) (b : Bench σ) :
    (command.perform bus b).2 = (run bus command.operation?.toList b).2 ∧
      ((∃ output, (command.perform bus b).1 = .ok output) ↔
        AllAnswered bus command.operation?.toList b) := by
  cases ho : command.operation? with
  | some operation =>
    obtain ⟨hbench, hanswered⟩ := madeBy_perform bus ho b
    exact ⟨hbench, hanswered.trans (and_iff_left trivial).symm⟩
  | none =>
    cases command <;> cases ho
    exact ⟨rfl, fun _ => trivial, fun _ => ⟨_, rfl⟩⟩

/-- The operation of a command is refused by a closed session. -/
theorem run_operation_of_closed (command : DeviceCommand) {b : Bench σ} (h : b.session.opened = none) :
    (run bus command.operation?.toList b).2 = b := by
  cases ho : command.operation? with
  | none => rfl
  | some operation =>
    have hneeds : operation.needsLink := by
      cases command <;> cases ho <;> rfl
    change (operation.perform bus b).2 = b
    rw [perform_of_closed h hneeds]

theorem allAnswered_append (operations operations' : List Operation) (b : Bench σ) :
    AllAnswered bus (operations ++ operations') b ↔
      AllAnswered bus operations b ∧ AllAnswered bus operations' (run bus operations b).2 := by
  induction operations generalizing b with
  | nil => exact (and_iff_right trivial).symm
  | cons operation operations ih => exact (and_congr_right fun _ => ih _).trans and_assoc.symm

/-! ## Opening and closing -/

/-- Opening and closing give no answer but that they are done. -/
theorem perform_done (action : Action (Bench σ) Unit) (b : Bench σ) :
    ((do action; return .done : Action (Bench σ) Answer) b).2 = (action b).2 ∧
      (Answered ((do action; return .done : Action (Bench σ) Answer) b).1 ↔
        (action b).1 = .ok ()) := by
  rw [bind_apply]
  rcases action b with ⟨e | _, b'⟩
  · exact ⟨rfl, nofun, nofun⟩
  · exact ⟨rfl, fun _ => rfl, fun _ => ⟨_, rfl, nofun⟩⟩

theorem perform_openUp (bus : Bus σ) (b : Bench σ) :
    (Operation.openUp.perform bus b).2 = (openUp bus b).2 ∧
      (Answered (Operation.openUp.perform bus b).1 ↔ (openUp bus b).1 = .ok ()) :=
  perform_done _ b

theorem perform_close (bus : Bus σ) (b : Bench σ) :
    (Operation.close.perform bus b).2 = (close bus b).2 ∧
      (Answered (Operation.close.perform bus b).1 ↔ (close bus b).1 = .ok ()) :=
  perform_done _ b

/-! ## Runs with an instrument -/

theorem run_operations (command : DeviceCommand) (b : Bench σ) :
    (run bus command.operations b).2 =
      (close bus (run bus command.operation?.toList (openUp bus b).2).2).2 := by
  change (run bus (command.operation?.toList ++ [.close]) (Operation.openUp.perform bus b).2).2 = _
  rw [(perform_openUp bus b).1, run_append]
  exact (perform_close bus _).1

theorem allAnswered_operations (command : DeviceCommand) (b : Bench σ) :
    AllAnswered bus command.operations b ↔
      (openUp bus b).1 = .ok () ∧
        (∃ output, (command.perform bus (openUp bus b).2).1 = .ok output) ∧
          (close bus (command.perform bus (openUp bus b).2).2).1 = .ok () := by
  obtain ⟨hopened, hopen⟩ := perform_openUp bus b
  obtain ⟨hmade, hcommand⟩ := perform_command bus command (openUp bus b).2
  change Answered _ ∧ AllAnswered bus _ (Operation.openUp.perform bus b).2 ↔ _
  rw [hopen, hopened, allAnswered_append, hcommand, hmade]
  exact and_congr_right fun _ => and_congr_right fun _ =>
    (and_iff_left trivial).trans (perform_close bus _).2

/-- An opening that fails leaves the session closed. -/
theorem opened_of_openUp_eq_error {b b' : Bench σ} {e : Failure} (h : openUp bus b = (.error e, b')) :
    b'.session.opened = none := by
  obtain ⟨hsession, hnone⟩ := session_of_perform_openUp (bind_of_error h)
  rw [hsession, hnone]

section

variable (settings : Settings) (resource : Resource) (command : DeviceCommand) (s : σ)

/-- What a run does to the bus is what its operations do. -/
theorem bus_runDevice :
    (runDevice bus settings resource command s).2 =
      (run bus command.operations ⟨{ resource, settings }, s⟩).2.bus := by
  rw [run_operations]
  unfold runDevice ExceptT.run
  rcases ho : openUp bus ⟨{ resource, settings }, s⟩ with ⟨e | _, b⟩
  · have hclosed := opened_of_openUp_eq_error ho
    rw [run_operation_of_closed command hclosed, close_apply, hclosed]
  · dsimp only
    rw [← (perform_command bus command b).1]
    rcases command.perform bus b with ⟨e | output, b'⟩
    · rfl
    · dsimp only
      rcases close bus b' with ⟨e | _, b''⟩ <;> rfl

/-- A run ends well if all its operations are answered. -/
theorem exit_runDevice :
    (runDevice bus settings resource command s).1.exit = 0 ↔
      AllAnswered bus command.operations ⟨{ resource, settings }, s⟩ := by
  rw [allAnswered_operations]
  unfold runDevice ExceptT.run
  rcases openUp bus ⟨{ resource, settings }, s⟩ with ⟨e | _, b⟩
  · simp [RunResult.failed]
  · dsimp only
    rcases command.perform bus b with ⟨e | output, b'⟩
    · simp [RunResult.failed]
    · dsimp only
      rcases close bus b' with ⟨e | _, b''⟩ <;> simp [RunResult.failed, RunResult.success]

end

/-! ## Runs of the program -/

/-- What holds of the bus of a closed session holds of the bus after a run with an instrument. -/
theorem closed_runDevice {settings : Settings} {closed : σ → Prop} {opened : OpenedDevice → σ → Prop}
    (h : Lasts bus settings closed opened) (resource : Resource) (command : DeviceCommand) :
    Respects (Preserves closed) (runDevice bus settings resource command) := by
  intro s hs
  rw [bus_runDevice]
  have hstart : During settings closed opened ⟨{ resource, settings }, s⟩ :=
    ⟨⟨settings.timeoutMs, rfl⟩, hs⟩
  refine (h.during_run command.operations hstart).of_closed ?_
  rw [run_operations, session_close]

/-- Listing the instruments asks for the devices and nothing else. -/
theorem snd_listDevices (s : σ) : (listDevices bus s).2 = (bus.enumerate s).2 := by
  rw [listDevices, bind_pure_apply]
  rfl

theorem respects_pickResource {r : σ → σ → Prop} [Std.Refl r] [IsTrans σ r]
    (h : Respects r bus.enumerate) (name : Option String) : Respects r (pickResource bus name) := by
  have hlist : Respects r ((listDevices bus).adapt ProgramError.failure) := fun s => by
    rw [adapt_apply, snd_listDevices]
    exact h s
  unfold pickResource
  split
  · exact respects_pure _
  · refine hlist.bind fun infos => ?_
    split
    · exact respects_throw _
    · exact respects_pure _
    · exact respects_throw _

theorem snd_runList (s : σ) : (runList bus s).2 = (bus.enumerate s).2 := by
  rw [← snd_listDevices]
  unfold runList ExceptT.run
  rcases listDevices bus s with ⟨e | infos, s'⟩ <;> rfl

theorem exit_runList (s : σ) : (runList bus s).1.exit = 0 ↔ ∃ infos, (listDevices bus s).1 = .ok infos := by
  unfold runList ExceptT.run
  rcases listDevices bus s with ⟨e | infos, s'⟩ <;> simp [RunResult.failed, RunResult.success]

/-- What holds of the bus of a closed session holds of the bus after a run of the program. -/
theorem closed_program {closed : σ → Prop} {opened : OpenedDevice → σ → Prop}
    (h : ∀ settings, Lasts bus settings closed opened)
    (henumerate : Respects (Preserves closed) bus.enumerate)
    (content : String → Option (List UInt8)) (arguments : List String) :
    Respects (Preserves closed) (program library bus content arguments) := by
  unfold program
  split
  · exact respects_skip _
  · exact respects_skip _
  · next invocation _ =>
    intro s
    unfold Invocation.run
    split
    · rw [snd_runList]
      exact henumerate s
    · next command _ =>
      split
      · exact id
      · next settings _ =>
        have hpicked := respects_pickResource henumerate invocation.resource s
        unfold ExceptT.run
        rcases hr : pickResource bus invocation.resource s with ⟨e | resource, s'⟩ <;>
          rw [hr] at hpicked
        · exact hpicked
        · exact fun hs => closed_runDevice (h settings) resource command s' (hpicked hs)

theorem settingsFor_eq_ok_iff {invocation : Invocation} {content : Option (List UInt8)}
    {settings : Settings} :
    settingsFor library invocation content = .ok settings ↔ invocation.Loads library content settings := by
  unfold settingsFor Invocation.Loads
  cases invocation.config with
  | none => cases invocation.timeoutMs <;> simp [pure, Except.pure, bind, Except.bind, eq_comm]
  | some path =>
    cases content with
    | none => simp [throw, throwThe, MonadExceptOf.throw, bind, Except.bind]
    | some bytes =>
      cases hread : Settings.ofBytes library bytes with
      | error e => simp [hread, throw, throwThe, MonadExceptOf.throw, bind, Except.bind]
      | ok loaded =>
        cases invocation.timeoutMs <;>
          simp [hread, pure, Except.pure, bind, Except.bind, eq_comm]

/-- The exit status tells whether all has succeeded. -/
theorem exit_run (invocation : Invocation) (content : Option (List UInt8)) (s : σ) :
    (invocation.run library bus content s).1.exit = 0 ↔ invocation.Succeeds library bus content s := by
  unfold Invocation.run Invocation.Succeeds
  cases invocation.command with
  | list => exact exit_runList s
  | device command =>
    simp only [← settingsFor_eq_ok_iff]
    cases settingsFor library invocation content with
    | error e => simp [RunResult.failed]
    | ok settings =>
      unfold ExceptT.run
      rcases pickResource bus invocation.resource s with ⟨e | resource, s'⟩
      · simp [RunResult.failed]
      · simp [exit_runDevice]

/-! ## Runs on a host -/

open Host

/-- The listing of devices is logged, and nothing else. -/
theorem log_listDevices (h : Host) : (Host.listDevices h).2.log = h.log ++ [.listDevices] := by
  have henter : (enter .listDevices h).2.log = h.log ++ [.listDevices] := by
    unfold enter
    dsimp only
    split <;> rfl
  unfold Host.listDevices
  rw [bind_apply]
  rcases hr : enter .listDevices h with ⟨e | _, h'⟩ <;> rw [hr] at henter <;> exact henter

/-- On a host with any devices, whatever they answer and whichever calls fail, with any arguments, and with any
library for the settings file: after a run of the program no claim is held and no endpoint is open, every
claim has been released once, and drivers have been offered back by one call for each one that was detached,
in the same order. If the
arguments are accepted, then the command `list` asks the host for its devices and for nothing else, and
the exit status is 0 exactly when all that the run set out to do has succeeded. -/
theorem returns_program (library : Settings.Library) (peripherals : List Peripheral)
    (failures : List (EventKind × Option String)) (content : String → Option (List UInt8))
    (arguments : List String) :
    let start : HostBus × List BusEvent := ({ host := { peripherals, failures } }, [])
    let ran := program library HostBus.behaviour.recorded content arguments start
    let host := ran.2.1.host
    let record := ran.2.2
    (∀ c ∈ host.claims, c.isOver) ∧
      host.released.Perm (host.claims.map (·.interface)) ∧
      host.attached = record.flatMap BusEvent.detaches ∧ Bracketed record ∧
      ∀ invocation, parse arguments = .ok invocation →
        (invocation.command = .list → host.log = [.listDevices]) ∧
          (ran.1.exit = 0 ↔ invocation.Succeeds library HostBus.behaviour.recorded
            (invocation.config.bind content) start) := by
  intro start ran host record
  have hstart : HostBus.Returned start := ⟨nofun, nofun, nofun, nofun, fun _ => rfl, rfl⟩
  have hreturned : HostBus.Returned ran.2 :=
    closed_program HostBus.lasts_lent HostBus.returned_enumerate content arguments start hstart
  have hbracketed : Bracketed record :=
    closed_program (lasts_bracketed HostBus.behaviour) (fun _ h => Bracketed.outside h rfl) content
      arguments start .nil
  refine ⟨hreturned.isOver, hreturned.released_perm,
    hreturned.attached.trans hbracketed.attaches_eq_detaches, hbracketed, fun invocation hparse => ?_⟩
  have hran : ran =
      invocation.run library HostBus.behaviour.recorded (invocation.config.bind content) start := by
    simp only [ran, program, hparse]
  refine ⟨fun hlist => ?_, hran ▸ exit_run invocation _ start⟩
  have hlisted : ran.2 = (HostBus.behaviour.recorded.enumerate start).2 := by
    rw [hran, Invocation.run, hlist]
    exact snd_runList start
  dsimp only [host]
  rw [hlisted]
  exact log_listDevices start.1.host

/-- An instrument that the operating system has a driver for. -/
def drivenPeripheral : Peripheral :=
  let endpoints : List Endpoint := [⟨2, .bulk, .output, 64⟩, ⟨129, .bulk, .input, 64⟩]
  { Peripheral.plugged ⟨0x0957, 2, none, "1", 2, [⟨0, 254, 3, 0⟩]⟩
      [⟨1, [⟨0, 0, 254, 3, 0, endpoints⟩]⟩] with
    driverActive := true
    controlDefaults := [(Wire.Request.getCapabilities.code, 1 :: List.replicate 23 0)] }

/-- A host that has just this instrument, and failures in store. -/
def drivenHost (failures : List (EventKind × Option String)) : HostBus × List BusEvent :=
  ({ host := { peripherals := [drivenPeripheral], failures } }, [])

/-- A run of the program on this host. -/
def drivenRun (failures : List (EventKind × Option String)) (arguments : List String) :
    RunResult × HostBus × List BusEvent :=
  program .toml HostBus.behaviour.recorded (fun _ => none) arguments (drivenHost failures)

/-- A text is written, or cannot be since the endpoint does not open. Either way there has been one claim,
which is released, and the driver is offered back. -/
theorem returns_drivenRun :
    ((drivenRun [] ["write", "*RST"]).2.1.host.claims.length = 1 ∧
        (drivenRun [] ["write", "*RST"]).2.1.host.released = [0] ∧
        (drivenRun [] ["write", "*RST"]).2.1.host.attached = [0] ∧
        Invocation.Succeeds .toml HostBus.behaviour.recorded { command := .device (.write "*RST") } none
          (drivenHost [])) ∧
      ((drivenRun [(.openEndpoint, some "busy")] ["write", "*RST"]).2.1.host.claims.length = 1 ∧
        (∀ c ∈ (drivenRun [(.openEndpoint, some "busy")] ["write", "*RST"]).2.1.host.claims, c.isOver) ∧
        (drivenRun [(.openEndpoint, some "busy")] ["write", "*RST"]).2.1.host.attached = [0] ∧
        ¬ Invocation.Succeeds .toml HostBus.behaviour.recorded { command := .device (.write "*RST") } none
          (drivenHost [(.openEndpoint, some "busy")])) ∧
      (drivenRun [] ["list"]).2.1.host.log = [.listDevices] := by
  obtain ⟨-, -, -, -, hwritten⟩ :=
    returns_program .toml [drivenPeripheral] [] (fun _ => none) ["write", "*RST"]
  obtain ⟨hover, -, -, -, hfailed⟩ :=
    returns_program .toml [drivenPeripheral] [(.openEndpoint, some "busy")] (fun _ => none) ["write", "*RST"]
  obtain ⟨-, -, -, -, hlisted⟩ := returns_program .toml [drivenPeripheral] [] (fun _ => none) ["list"]
  have hexit : (drivenRun [] ["write", "*RST"]).1.exit = 0 := by decide +kernel
  have hexit' : (drivenRun [(.openEndpoint, some "busy")] ["write", "*RST"]).1.exit ≠ 0 := by
    decide +kernel
  exact ⟨⟨by decide +kernel, by decide +kernel, by decide +kernel, (hwritten _ rfl).2.1 hexit⟩,
    ⟨by decide +kernel, hover, by decide +kernel, fun h => hexit' ((hfailed _ rfl).2.2 h)⟩,
    (hlisted _ rfl).1 rfl⟩

end Benchtop.CommandLine
