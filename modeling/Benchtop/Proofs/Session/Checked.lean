import Benchtop.Proofs.Link.Checked
import Benchtop.Proofs.Session.Run
import Benchtop.Scripted.Bus

/-!
# No bytes of a device lead to a fault

The operations of a session, with the steps that are not always allowed taken as such
(`Operation.performChecked`), and runs that stop at the first fault (`runChecked`). Handing back, clearing,
the abort of a transfer and the diagnostic id have no such steps: they look at an answer for bytes that may
be missing. A message is cut into pieces of at least one byte, because a limit of none in the settings is
raised when a link is made (`hasRoom_of_reachable`).

Main statement: whatever a bus answers, a run of operations ends without a fault, and every operation
after it gives what it gives without checks (`never_faults`).
-/

namespace Benchtop.Session

open Usb Wire Guarded

variable {σ α : Type}

/-! ## Operations -/

/-- An action on the link of an open session. -/
def onLinkChecked (bus : Bus σ) (action : Device σ → Guarded (Connection σ) α) : Guarded (Bench σ) α :=
  fun b =>
    match b.session.opened with
    | none => (.error (.inr .notOpen), b)
    | some opened =>
      let (answer, c) := action (bus.device opened.handle) ⟨opened.link, b.bus⟩
      (answer,
        { b with session.opened := some { opened with link := c.link }, bus := c.device })

/-- An action on the bus of a bench. -/
def onBusChecked (action : Guarded σ α) : Guarded (Bench σ) α := fun b =>
  let (answer, bus) := action b.bus
  (answer, { b with bus })

/-- Opens a device on the bus and makes a link of it; the device is let go of if that fails. -/
def openLinkChecked (bus : Bus σ) (info : DeviceInfo) (settings : Settings) : Guarded σ OpenedDevice :=
  fun s =>
    match bus.openDevice info s with
    | (.error e, s) => (.error (.inr (.bus e)), s)
    | (.ok handle, s) =>
      match Link.establishChecked (bus.device handle) info settings s with
      | (.ok link, s) => (.ok ⟨handle, link⟩, s)
      | (.error (.inl fault), s) => (.error (.inl fault), s)
      | (.error (.inr e), s) => (.error (.inr e), bus.letGo handle s)

/-- Opens the session. -/
def openUpChecked (bus : Bus σ) : Guarded (Bench σ) Unit := do
  let session := (← get).session
  unless session.isOpen do
    let info ← ofAction (onBus (resolve bus session.resource))
    let opened ← onBusChecked (openLinkChecked bus info session.settings)
    modify fun b => { b with session.opened := some opened }

def writeRawChecked (bus : Bus σ) (data : List UInt8) : Guarded (Bench σ) Unit :=
  onLinkChecked bus fun dev => Link.writeMessageChecked dev data

def readRawChecked (width : Nat) (bus : Bus σ) : Guarded (Bench σ) (List UInt8) :=
  onLinkChecked bus (Link.readMessageChecked width)

def askRawChecked (width : Nat) (bus : Bus σ) (data : List UInt8) : Guarded (Bench σ) (List UInt8) := do
  writeRawChecked bus data
  readRawChecked width bus

def readChecked (width : Nat) (bus : Bus σ) : Guarded (Bench σ) String :=
  return String.ofList (Text.responseText (← readRawChecked width bus))

def askChecked (width : Nat) (bus : Bus σ) (text : String) : Guarded (Bench σ) String := do
  writeRawChecked bus (Text.bytesOf text)
  readChecked width bus

/-- Makes an operation, in words of `width` bits. -/
def Operation.performChecked (width : Nat) (bus : Bus σ) : Operation → Guarded (Bench σ) Answer
  | .openUp => do openUpChecked bus; return .done
  | .write text => do writeRawChecked bus (Text.bytesOf text); return .done
  | .writeRaw data => do writeRawChecked bus data; return .done
  | .read => return .text (← readChecked width bus)
  | .readRaw => return .bytes (← readRawChecked width bus)
  | .ask text => return .text (← askChecked width bus text)
  | .askRaw data => return .bytes (← askRawChecked width bus data)
  | .askMany texts => return .texts (← texts.mapM (askChecked width bus))
  | .readStatusByte => return .byte (← onLinkChecked bus (Link.readStatusByteChecked width))
  | .trigger => do onLinkChecked bus Link.triggerChecked; return .done
  | operation => ofAction (operation.perform bus)

/-- Makes operations one after the other, whatever they give, up to the first fault. -/
def runChecked (width : Nat) (bus : Bus σ) : List Operation → Bench σ → Checked Unit × Bench σ
  | [], b => (.ok (), b)
  | operation :: operations, b =>
    match operation.performChecked width bus b with
    | (.error (.inl fault), b) => (.error fault, b)
    | (_, b) => runChecked width bus operations b

/-! ## Agreement -/

/-- A piece of a message to an open session has room for a byte. -/
def HasRoom (b : Bench σ) : Prop :=
  ∀ opened, b.session.opened = some opened → 0 < opened.link.maxTransferSize.toNat

variable {bus : Bus σ}

theorem hasRoom_of_reachable {b : Bench σ} (h : Reachable bus b) : HasRoom b :=
  fun _ ho => h.maxTransferSize_pos ho

theorem agrees_onLink {action : Device σ → Guarded (Connection σ) α} {action' : Device σ → Exchange σ α}
    (h : ∀ dev, Agrees Link.HasRoom (action dev) (action' dev)) :
    Agrees HasRoom (onLinkChecked bus action) (onLink bus action') := by
  intro b hb
  rw [ofAction, adapt_apply, onLinkChecked, onLink]
  cases ho : b.session.opened with
  | none => rfl
  | some opened =>
    have hagrees := h (bus.device opened.handle) ⟨opened.link, b.bus⟩ (hb opened ho)
    rw [ofAction, adapt_apply] at hagrees
    dsimp only
    rw [hagrees]
    rfl

/-- What an operation of the link does leaves the room there is. -/
theorem hasRoom_of_works {action : Action (Bench σ) α}
    (h : Respects (Works bus fun _ => False) action) (b : Bench σ) (hb : HasRoom b) :
    HasRoom (action b).2 := by
  have hworks := h b
  generalize (action b).2 = b' at hworks ⊢
  cases hworks with
  | closed => exact hb
  | opened ho hm =>
    have hroom := hb _ ho
    rintro _ ⟨rfl⟩
    rw [hm.sameOpening]
    exact hroom

theorem openLinkChecked_eq (info : DeviceInfo) (settings : Settings) :
    openLinkChecked bus info settings = ofAction (openLink bus info settings) := by
  funext s
  rw [ofAction, adapt_apply, openLinkChecked, openLink_apply]
  rcases bus.openDevice info s with ⟨e | handle, t⟩
  · rfl
  · dsimp only
    rw [Link.establishChecked_eq, ofAction, adapt_apply]
    rcases Link.establish (bus.device handle) info settings t with ⟨e | link, u⟩ <;> rfl

theorem onBusChecked_eq (action : Action σ α) :
    onBusChecked (ofAction action) = ofAction (onBus action) := rfl

theorem openUpChecked_eq : openUpChecked bus = ofAction (openUp bus) := by
  simp only [openUpChecked, openUp, ofAction_bind, ofAction_get, openLinkChecked_eq, onBusChecked_eq]
  refine bind_congr fun b => ?_
  split
  · rfl
  · simp only [ofAction_bind]
    rfl

theorem agrees_writeRaw (data : List UInt8) :
    Agrees HasRoom (writeRawChecked bus data) (writeRaw bus data) :=
  agrees_onLink fun dev => Link.agrees_writeMessage dev data

section

variable {width : Nat} (hw : 32 ≤ width)

include hw

theorem agrees_readRaw : Agrees HasRoom (readRawChecked width bus) (readRaw bus) :=
  agrees_onLink fun dev => agrees_of_eq (Link.readMessageChecked_eq hw dev)

theorem agrees_read : Agrees HasRoom (readChecked width bus) (read bus) :=
  (agrees_readRaw hw).bind (hasRoom_of_works works_readRaw) fun _ => agrees_pure _

theorem agrees_ask (text : String) : Agrees HasRoom (askChecked width bus text) (ask bus text) :=
  (agrees_writeRaw _).bind (hasRoom_of_works (works_writeRaw _)) fun _ => agrees_read hw

theorem agrees_askRaw (data : List UInt8) :
    Agrees HasRoom (askRawChecked width bus data) (askRaw bus data) :=
  (agrees_writeRaw _).bind (hasRoom_of_works (works_writeRaw _)) fun _ => agrees_readRaw hw

/-- An operation takes no step that is not allowed. -/
theorem agrees_perform (operation : Operation) :
    Agrees HasRoom (operation.performChecked width bus) (operation.perform bus) := by
  have hanswered {α : Type} {x : Guarded (Bench σ) α} {y : Action (Bench σ) α} (h : Agrees HasRoom x y)
      (answer : α → Answer) :
      Agrees HasRoom (do return answer (← x)) (do return answer (← y)) :=
    h.bind (q := fun _ => True) (fun _ _ => trivial) fun _ => agrees_pure _
  cases operation with
  | openUp => exact hanswered (agrees_of_eq openUpChecked_eq) fun _ => .done
  | write text => exact hanswered (agrees_writeRaw _) fun _ => .done
  | writeRaw data => exact hanswered (agrees_writeRaw _) fun _ => .done
  | read => exact hanswered (agrees_read hw) .text
  | readRaw => exact hanswered (agrees_readRaw hw) .bytes
  | ask text => exact hanswered (agrees_ask hw text) .text
  | askRaw data => exact hanswered (agrees_askRaw hw data) .bytes
  | askMany texts =>
    exact hanswered (Agrees.mapM (agrees_ask hw) (fun text => hasRoom_of_works (works_ask text)) texts)
      .texts
  | readStatusByte =>
    exact hanswered (agrees_onLink fun dev => Link.agrees_readStatusByte hw dev) .byte
  | trigger => exact hanswered (agrees_onLink Link.agrees_trigger) fun _ => .done
  | _ => exact agrees_ofAction _

/-- What one operation does without a fault, a run does. -/
theorem runChecked_eq (operations : List Operation) {b : Bench σ} (h : Reachable bus b) :
    runChecked width bus operations b = (.ok (), (run bus operations b).2) := by
  induction operations generalizing b with
  | nil => rfl
  | cons operation operations ih =>
    rw [runChecked, agrees_perform hw operation b (hasRoom_of_reachable h), ofAction, adapt_apply]
    change _ = (Except.ok (), (run bus operations (operation.perform bus b).2).2)
    rw [← ih (h.perform operation)]
    generalize operation.perform bus b = made
    rcases made with ⟨e | answer, b'⟩ <;> rfl

/-- In words of 32 bits or more, on a bus that answers anything, bytes of any number and value: a run of
operations from a closed session ends without a fault, on the bench that the run without checks comes to,
and so does each operation after it, which gives what it gives without checks. -/
theorem never_faults (bus : Bus σ) (resource : Resource) (settings : Settings) (start : σ)
    (operations : List Operation) :
    let closed : Bench σ := ⟨{ resource, settings }, start⟩
    let ran := (run bus operations closed).2
    runChecked width bus operations closed = (.ok (), ran) ∧
      ∀ operation : Operation, operation.performChecked width bus ran =
        ((operation.perform bus ran).1.mapError .inr, (operation.perform bus ran).2) := by
  intro closed ran
  have hran : Reachable bus ran := ⟨resource, settings, start, operations, rfl⟩
  exact ⟨runChecked_eq hw operations ⟨resource, settings, start, [], rfl⟩,
    fun operation => agrees_perform hw operation ran (hasRoom_of_reachable hran)⟩

end

/-- An instrument that announces a block where it should send an envelope. -/
def bareInfo : DeviceInfo := ⟨0x1AB1, 0x0588, none, "mock", 3, []⟩

/-- A bus with this instrument. -/
def bareBus : ScriptedBus :=
  { devices := [(bareInfo, { ScriptedDevice.plain with bulkInQueue := [.raw [35, 57, 57]] })] }

/-- Nothing is wrong with a limit of no bytes, and three bytes are too few. -/
theorem never_faults_bareBus :
    32 ≤ 32 ∧
      (let closed : Bench ScriptedBus :=
        ⟨{ resource := .attached bareInfo, settings := { maxTransferSize := 0 } }, bareBus⟩
      let ran := (run ScriptedBus.behaviour [.openUp] closed).2
      ran.session.isOpen ∧
        runChecked 32 ScriptedBus.behaviour [.openUp] closed = (.ok (), ran) ∧
          (Operation.readRaw.performChecked 32 ScriptedBus.behaviour ran).1 =
            .error (.inr (.badEnvelope (.tooShort 3)))) := by
  obtain ⟨hran, hperform⟩ := never_faults (Nat.le_refl 32) ScriptedBus.behaviour (.attached bareInfo)
    { maxTransferSize := 0 } bareBus [.openUp]
  refine ⟨Nat.le_refl 32, by decide +kernel, hran, ?_⟩
  rw [hperform .readRaw]
  rfl

end Benchtop.Session
