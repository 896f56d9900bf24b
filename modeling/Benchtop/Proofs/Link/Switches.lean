import Benchtop.Proofs.Link.Opening
import Benchtop.Proofs.Link.Status

/-!
# Remote control and the lock

Two requests under one code switch what a link notes of itself: remote control, which is noted if the
request is acknowledged (`Event.granted?`), and the lock of the front panel, which is noted if there is an
answer (`Event.answered?`). Which of the two a request switches, only the operation tells that makes it.
So an operation that is not made for the lock brings remote control to what was granted last
(`NotesAll.remote_eq`), one that is not made for remote control brings the lock to what was answered
last (`NotesAll.locked_eq`), and what the operation is not made for stays as it is. Neither is switched on
but by an instrument that knows of it (`Justified`).
-/

namespace Benchtop

open Usb Wire

variable {σ : Type} {dev : Device σ}

/-! ## The latest value -/

/-- The value that was given last, and `start` if none was. -/
def lastValue {α : Type} (value? : α → Option Bool) (start : Bool) (xs : List α) : Bool :=
  (xs.filterMap value?).getLast?.getD start

section

variable {α : Type} {value? : α → Option Bool} {start : Bool}

theorem lastValue_append (xs ys : List α) :
    lastValue value? start (xs ++ ys) = lastValue value? (lastValue value? start xs) ys := by
  rw [lastValue, List.filterMap_append, List.getLast?_append, Option.getD_or]
  rfl

theorem lastValue_singleton (x : α) : lastValue value? start [x] = (value? x).getD start := by
  cases h : value? x <;> simp [lastValue, h]

theorem lastValue_map {β : Type} (f : β → α) (xs : List β) :
    lastValue value? start (xs.map f) = lastValue (value? ∘ f) start xs := by
  rw [lastValue, List.filterMap_map]
  rfl

theorem lastValue_of_none {xs : List α} (h : ∀ x ∈ xs, value? x = none) :
    lastValue value? start xs = start := by
  rw [lastValue, List.filterMap_eq_nil_iff.2 h]
  rfl

end

/-! ## What a request switches -/

/-- What a request sets remote control or the lock to. -/
def Usb.Event.switch? : Event → Option Bool
  | ⟨.controlIn setup _ _, _⟩ =>
    if setup.request = Request.remoteEnable.code then some (setup.value == 1) else none
  | _ => none

/-- What a request sets remote control to, if it is acknowledged. -/
def Usb.Event.granted? (e : Event) : Option Bool := if e.isAcknowledged then e.switch? else none

/-- What a request sets the lock to, if it is answered. -/
def Usb.Event.answered? (e : Event) : Option Bool := if e.answer.isOk then e.switch? else none

theorem Usb.Event.switch?_of_isPlain {call : Call} (h : call.isPlain)
    (answer : Except BusError call.Answer) : (Event.mk call answer).switch? = none := by
  cases call with
  | controlIn setup =>
    have hcode : ¬ setup.request = Request.remoteEnable.code := by
      simpa [isPlainCode] using (Bool.and_eq_true_iff.1 h).2
    exact if_neg hcode
  | _ => rfl

theorem Usb.Event.switch?_of_not_isTraffic {e : Event} (h : ¬ e.call.isTraffic) : e.switch? = none := by
  obtain ⟨call, answer⟩ := e
  cases call with
  | controlIn => exact absurd rfl h
  | _ => rfl

theorem Usb.Event.granted?_of_switch? {e : Event} (h : e.switch? = none) : e.granted? = none := by
  rw [granted?, h, ite_self]

theorem Usb.Event.answered?_of_switch? {e : Event} (h : e.switch? = none) : e.answered? = none := by
  rw [answered?, h, ite_self]

namespace Link

/-- The two requests have one code, and their value is what they switch to. -/
theorem switch?_requestCall {r : Request} (hcode : r.code = Request.remoteEnable.code) (link : Link)
    (on : Bool) (answer : Except BusError (List UInt8)) :
    (Event.mk (link.requestCall r (switchValue on)) answer).switch? = some on := by
  have hvalue : (switchValue on == 1) = on := by cases on <;> rfl
  have hswitch : (Event.mk (link.requestCall r (switchValue on)) answer).switch? =
      some (switchValue on == 1) := if_pos hcode
  rw [hswitch, hvalue]

/-- The lock is set if there is an answer. -/
theorem answered?_requestCall (link : Link) (on : Bool) (answer : Except BusError (List UInt8)) :
    (Event.mk (link.requestCall .frontPanelLock (switchValue on)) answer).answered? =
      if answer.isOk then some on else none := by
  rw [← switch?_requestCall (r := .frontPanelLock) rfl link on answer]
  rfl

variable {wants : Request → Prop} {link link' : Link}

/-! ## What is noted -/

/-- A note of remote control is what was granted, and no note of the lock. -/
theorem Notes.remote_eq {e : Event} (h : link.Notes wants e link') (hno : ¬ wants .frontPanelLock) :
    link'.remote = e.granted?.getD link.remote ∧ link'.locked = link.locked := by
  cases h with
  | call hplain hasks answer =>
    rw [Event.granted?_of_switch? (Event.switch?_of_isPlain hplain answer)]
    exact ⟨rfl, rfl⟩
  | transfer hs answer =>
    rw [Event.granted?_of_switch? rfl]
    exact ⟨rfl, rfl⟩
  | statusByte hmode hwants answer =>
    rw [Event.granted?_of_switch? rfl]
    exact ⟨rfl, rfl⟩
  | remote on htakes hwants answer =>
    refine ⟨?_, rfl⟩
    rw [Event.granted?, switch?_requestCall rfl]
    dsimp only
    split <;> rfl
  | locked on htakes hwants answer => exact absurd hwants hno

/-- A note of the lock is what was answered, and no note of remote control. -/
theorem Notes.locked_eq {e : Event} (h : link.Notes wants e link') (hno : ¬ wants .remoteEnable) :
    link'.locked = e.answered?.getD link.locked ∧ link'.remote = link.remote := by
  cases h with
  | call hplain hasks answer =>
    rw [Event.answered?_of_switch? (Event.switch?_of_isPlain hplain answer)]
    exact ⟨rfl, rfl⟩
  | transfer hs answer =>
    rw [Event.answered?_of_switch? rfl]
    exact ⟨rfl, rfl⟩
  | statusByte hmode hwants answer =>
    rw [Event.answered?_of_switch? rfl]
    exact ⟨rfl, rfl⟩
  | remote on htakes hwants answer => exact absurd hwants hno
  | locked on htakes hwants answer =>
    refine ⟨?_, rfl⟩
    rw [answered?_requestCall]
    dsimp only
    split <;> rfl

theorem NotesAll.remote_eq {events : List Event} (h : NotesAll wants link events link')
    (hno : ¬ wants .frontPanelLock) :
    link'.remote = lastValue Event.granted? link.remote events ∧ link'.locked = link.locked := by
  induction h with
  | nil => exact ⟨rfl, rfl⟩
  | concat _ hn ih =>
    obtain ⟨hremote, hlocked⟩ := hn.remote_eq hno
    rw [lastValue_append, lastValue_singleton, ← ih.1, ← ih.2]
    exact ⟨hremote, hlocked⟩

theorem NotesAll.locked_eq {events : List Event} (h : NotesAll wants link events link')
    (hno : ¬ wants .remoteEnable) :
    link'.locked = lastValue Event.answered? link.locked events ∧ link'.remote = link.remote := by
  induction h with
  | nil => exact ⟨rfl, rfl⟩
  | concat _ hn ih =>
    obtain ⟨hlocked, hremote⟩ := hn.locked_eq hno
    rw [lastValue_append, lastValue_singleton, ← ih.1, ← ih.2]
    exact ⟨hlocked, hremote⟩

/-- An operation that is made for no request of its own draws bulk tags at most. -/
theorem NotesAll.eq_with_tags {events : List Event}
    (h : NotesAll (fun _ => False) link events link') : link' = { link with tags := link'.tags } := by
  have hopening : link' = _ := h.sameOpening
  rw [(h.locked_eq id).2, (h.remote_eq id).2, (h.statusTags id).2] at hopening
  exact hopening

/-! ## Instruments that know of it -/

/-- Remote control and the lock are on only where there is such a thing. -/
structure Justified (link : Link) : Prop where
  remote : link.remote → link.capabilities.remoteLocal
  locked : link.locked → link.profile.isLockable

theorem Notes.justified {e : Event} (h : link.Notes wants e link') (hlink : link.Justified) :
    link'.Justified := by
  cases h with
  | call => exact hlink
  | transfer => exact ⟨hlink.remote, hlink.locked⟩
  | statusByte => exact ⟨hlink.remote, hlink.locked⟩
  | remote on htakes => exact ⟨fun _ => htakes, hlink.locked⟩
  | locked on htakes => exact ⟨hlink.remote, fun _ => htakes⟩

theorem NotesAll.justified {events : List Event} (h : NotesAll wants link events link')
    (hlink : link.Justified) : link'.Justified := by
  induction h with
  | nil => exact hlink
  | concat _ hn ih => exact hn.justified ih

theorem justified_learned (info : DeviceInfo) (settings : Settings) (interface : Interface)
    (endpoints : Endpoints) (detached : Bool) (capabilities : Capabilities) :
    ((fresh info settings interface endpoints detached).learned capabilities).Justified :=
  ⟨nofun, nofun⟩

/-- A link that has been made has taken remote control if that was granted, and is not locked. -/
theorem MadeBy.remote_eq {info : DeviceInfo} {settings : Settings} {events : List Event}
    (h : MadeBy info settings link events) :
    link.remote = lastValue Event.granted? false events ∧ link.locked = false ∧ link.Justified := by
  obtain ⟨before, interface, endpoints, detached, bytes, capabilities, after, rfl, hbefore, hn⟩ := h
  have hno : ¬ RemoteRequest .frontPanelLock := by rintro (h | h) <;> cases h
  obtain ⟨hremote, hlocked⟩ := hn.remote_eq hno
  refine ⟨?_, hlocked, hn.justified (justified_learned ..)⟩
  rw [hremote, lastValue_append, lastValue_of_none fun e he =>
    Event.granted?_of_switch? (Event.switch?_of_not_isTraffic (hbefore e he)), ← List.singleton_append,
    lastValue_append, lastValue_singleton, Event.granted?_of_switch? rfl]
  rfl

/-! ## Failures -/

/-- Remote control that is not granted is not noted. -/
theorem remoteControl_error {on : Bool} {c c' : Connection σ} {e : Failure}
    (h : remoteControl dev on c = (.error e, c')) : c'.link = c.link := by
  rw [remoteControl, requireRemoteLocal_bind_apply] at h
  split at h
  · rcases hr : request dev .remoteEnable (switchValue on) c with ⟨error | _, c''⟩
    · rw [bind_of_error hr] at h
      cases h
      have hsnd : c' = (attempt dev (c.link.requestCall .remoteEnable (switchValue on)) c).2 :=
        (congrArg Prod.snd hr).symm.trans (request_apply .remoteEnable (switchValue on) c)
      rw [hsnd]
      rfl
    · rw [bind_of_ok hr] at h
      cases h
  · cases h
    rfl

/-- The lock is not noted if there is no answer. -/
theorem setLock_error {on : Bool} {c c' : Connection σ} {e : Failure}
    (h : setLock dev on c = (.error e, c')) : c'.link = c.link := by
  rw [setLock_apply, attempt] at h
  split at h
  · cases h
  · next hr =>
    cases h
    obtain ⟨-, rfl⟩ := Prod.mk.inj hr
    rfl

end Link

end Benchtop
