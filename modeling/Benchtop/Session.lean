import Benchtop.Link.Opening
import Benchtop.Resource.Discovery
import Benchtop.Text.Response

/-!
# Sessions

A session with one instrument on a bus. It starts closed; opening it finds the device and makes a
link of it, closing hands the device back. Both do nothing where there is nothing to do. Every
other operation needs an open session.

`Session.Operation` lists the operations and `Operation.perform` makes one, so that a run of a
session is a list of operations.
-/

namespace Benchtop

open Usb

variable {σ : Type}

/-- An opened device, by its number on the bus, and the link to it. -/
structure OpenedDevice where
  handle : Nat
  link : Link
  deriving DecidableEq, Repr

structure Session where
  resource : Resource
  settings : Settings
  opened : Option OpenedDevice := none
  deriving DecidableEq, Repr

/-- A session and the state of its bus. -/
structure Bench (σ : Type) where
  session : Session
  bus : σ

namespace Session

/-! ## State -/

def isOpen (s : Session) : Bool := s.opened.isSome

/-- The link, while the session is open. -/
def link? (s : Session) : Option Link := s.opened.map (·.link)

/-- The tag of the latest bulk transfer. -/
def currentTag? (s : Session) : Option UInt8 := s.link?.map (·.tags.current)

def isLocked (s : Session) : Bool := s.link?.any (·.locked)

def isRemote (s : Session) : Bool := s.link?.any (·.remote)

/-- Sets the timeout. The settings keep whole milliseconds; an open link waits exactly as long as
it is told. -/
def setTimeout (s : Session) (timeout : Duration) : Session :=
  { s with
    settings.timeoutMs := timeout.millis
    opened := s.opened.map fun o => { o with link.timing.timeout := timeout } }

/-! ## Opening and closing -/

/-- An action on the bus of a bench. -/
def onBus {α : Type} (action : Action σ α) : Action (Bench σ) α := fun b =>
  let (answer, bus) := action b.bus
  (answer, { b with bus })

/-- Opens a device on the bus and makes a link of it; the device is let go of if that fails. -/
def openLink (bus : Bus σ) (info : DeviceInfo) (settings : Settings) : Action σ OpenedDevice :=
  fun s =>
    match bus.openDevice info s with
    | (.error e, s) => (.error (.bus e), s)
    | (.ok handle, s) =>
      match (Link.establish (bus.device handle) info settings).run s with
      | (.ok link, s) => (.ok ⟨handle, link⟩, s)
      | (.error e, s) => (.error e, bus.letGo handle s)

/-- Opens the session. -/
def openUp (bus : Bus σ) : Action (Bench σ) Unit := do
  let session := (← get).session
  unless session.isOpen do
    let info ← onBus (resolve bus session.resource)
    let opened ← onBus (openLink bus info session.settings)
    modify fun b => { b with session.opened := some opened }

/-- Closes the session. -/
def close (bus : Bus σ) : Action (Bench σ) Unit := fun b =>
  match b.session.opened with
  | none => (.ok (), b)
  | some opened =>
    let (failed, c) := Link.handBack (bus.device opened.handle) ⟨opened.link, b.bus⟩
    let b := { b with session.opened := none, bus := bus.letGo opened.handle c.device }
    match failed with
    | none => (.ok (), b)
    | some e => (.error e, b)

/-- Ends the use of a session, which closes it. -/
def drop (bus : Bus σ) : StateM (Bench σ) Unit := fun b => ((), (close bus b).2)

/-! ## Operations -/

/-- An action on the link of an open session. -/
def onLink {α : Type} (bus : Bus σ) (action : Device σ → Exchange σ α) : Action (Bench σ) α :=
  fun b =>
    match b.session.opened with
    | none => (.error .notOpen, b)
    | some opened =>
      let (answer, c) := action (bus.device opened.handle) ⟨opened.link, b.bus⟩
      (answer,
        { b with session.opened := some { opened with link := c.link }, bus := c.device })

def writeRaw (bus : Bus σ) (data : List UInt8) : Action (Bench σ) Unit :=
  onLink bus fun dev => Link.writeMessage dev data

def readRaw (bus : Bus σ) : Action (Bench σ) (List UInt8) := onLink bus Link.readMessage

def askRaw (bus : Bus σ) (data : List UInt8) : Action (Bench σ) (List UInt8) := do
  writeRaw bus data
  readRaw bus

def write (bus : Bus σ) (text : String) : Action (Bench σ) Unit := writeRaw bus (Text.bytesOf text)

def read (bus : Bus σ) : Action (Bench σ) String :=
  return String.ofList (Text.responseText (← readRaw bus))

def ask (bus : Bus σ) (text : String) : Action (Bench σ) String := do
  write bus text
  read bus

/-- Asks one text after the other, up to the first failure. -/
def askMany (bus : Bus σ) (texts : List String) : Action (Bench σ) (List String) :=
  texts.mapM (ask bus)

inductive Operation where
  | openUp
  | close
  | write (text : String)
  | writeRaw (data : List UInt8)
  | read
  | readRaw
  | ask (text : String)
  | askRaw (data : List UInt8)
  | askMany (texts : List String)
  | readStatusByte
  | clear
  | trigger
  | pulse
  | remoteControl (enable : Bool)
  | goToLocal
  | localLockout
  | lock
  | unlock
  | readVendorId
  | setTimeout (timeout : Duration)
  /-- The session is let go of. What takes its place is closed, too. -/
  | drop
  deriving DecidableEq, Repr

/-- What an operation gives. -/
inductive Answer where
  | done
  | text (text : String)
  | bytes (data : List UInt8)
  | texts (texts : List String)
  | byte (value : UInt8)
  | flag (value : Bool)
  | byte? (value : Option UInt8)
  deriving DecidableEq, Repr

/-- Makes an operation. -/
def Operation.perform (bus : Bus σ) : Operation → Action (Bench σ) Answer
  | .openUp => do Session.openUp bus; return .done
  | .close => do Session.close bus; return .done
  | .write text => do Session.write bus text; return .done
  | .writeRaw data => do Session.writeRaw bus data; return .done
  | .read => return .text (← Session.read bus)
  | .readRaw => return .bytes (← Session.readRaw bus)
  | .ask text => return .text (← Session.ask bus text)
  | .askRaw data => return .bytes (← Session.askRaw bus data)
  | .askMany texts => return .texts (← Session.askMany bus texts)
  | .readStatusByte => return .byte (← onLink bus Link.readStatusByte)
  | .clear => do onLink bus Link.clear; return .done
  | .trigger => do onLink bus Link.trigger; return .done
  | .pulse => return .flag (← onLink bus Link.pulse)
  | .remoteControl enable => do
    onLink bus fun dev => Link.remoteControl dev enable
    return .done
  | .goToLocal => do onLink bus Link.goToLocal; return .done
  | .localLockout => do onLink bus Link.localLockout; return .done
  | .lock => do onLink bus Link.lock; return .done
  | .unlock => do onLink bus Link.unlock; return .done
  | .readVendorId => return .byte? (← onLink bus Link.readVendorId)
  | .setTimeout timeout => do
    modify fun b => { b with session := b.session.setTimeout timeout }
    return .done
  | .drop => do Session.drop bus; return .done

/-- Makes operations one after the other, whatever they give. -/
def run (bus : Bus σ) (operations : List Operation) : StateM (Bench σ) Unit :=
  operations.forM fun operation => do let _ ← (operation.perform bus).outcome

end Session

end Benchtop
