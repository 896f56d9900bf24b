import Benchtop.Proofs.Host.Ledger
import Benchtop.Proofs.Link.HandingBack
import Benchtop.Proofs.Session.Brackets

/-!
# Nothing is held after a session

A session on a host either has no device, and then nothing is held on the host (`HostBus.Returned`), or it
has one, and then the claims and endpoints of the host are those of this device (`HostBus.Lent`). Opening
leads from the one to the other, closing back, and whatever call is made of a device keeps the second.
In both cases drivers have been attached as the record of the bus tells.

Such a record is made of complete brackets when the session is closed. The record has what calls were
answered, and a driver has been taken away exactly when the answer says so
(`Host.perform_detachDriver`).

Main statements: whatever operations are made of a session, the host holds what its device holds, and
nothing if it has none (`HostBus.lasts_lent`). In a record of complete brackets a driver is attached for
each one that was detached, in the same order (`Bracketed.attaches_eq_detaches`).
-/

namespace Benchtop

open Usb Host

/-! ## Drivers -/

/-- A driver is taken away, or the devices stay as they are. -/
theorem Host.ensures_detachDriver (start : Host) (place : Nat) (interface : UInt8) :
    Ensures (fun h => h.peripherals = start.peripherals) (detachDriver place interface)
      (fun _ h => start.hasDriver place = true ∧ h.hasDriver place = false)
      fun _ h => h.peripherals = start.peripherals := by
  have hentered : Ensures (fun h => h.peripherals = start.peripherals) (enter (.detachDriver interface))
      (fun _ h => h.peripherals = start.peripherals) fun _ h => h.peripherals = start.peripherals := by
    intro h hh
    have hsame : (enter (.detachDriver interface) h).2.peripherals = h.peripherals := by
      unfold enter
      dsimp only
      split <;> rfl
    split <;> next hr => rwa [hr, hh] at hsame
  refine hentered.bind fun _ => ensures_get_self.bind fun h => ?_
  split
  · next hdriver =>
    refine ensures_modify ?_
    rintro _ ⟨rfl, hh⟩
    refine ⟨by rw [← hdriver, hasDriver, hasDriver, hh], ?_⟩
    simp [hasDriver, modifyAt, Option.any_map]
  · exact ensures_throw fun _ hh => hh.2

/-- The answer to the detaching of a driver tells whether one has been taken away. -/
theorem Host.perform_detachDriver (interface : UInt8) (s : Seat) :
    let detached := perform (.detachDriver interface) s
    detached.1 = .ok true ∧ s.host.hasDriver s.opened.place = true ∧
        detached.2.host.hasDriver s.opened.place = false ∨
      detached.1 = .ok false ∧ detached.2.host.peripherals = s.host.peripherals := by
  have hdetached := ensures_detachDriver s.host s.opened.place interface s.host rfl
  have hasked : perform (.detachDriver interface) s =
      match detachDriver s.opened.place interface s.host with
      | (.ok (), host) => (.ok true, { s with host })
      | (.error _, host) => (.ok false, { s with host }) := by
    dsimp only [perform]
    rw [tryCatch_apply, get_bind_apply, bind_pure_apply, ask]
    rcases detachDriver s.opened.place interface s.host with ⟨e | _, host⟩ <;> rfl
  dsimp only
  rw [hasked]
  rcases hr : detachDriver s.opened.place interface s.host with ⟨e | _, host⟩ <;> rw [hr] at hdetached
  · exact .inr ⟨rfl, hdetached⟩
  · exact .inl ⟨rfl, hdetached⟩

/-! ## Drivers in a record -/

/-- The interface that an event attaches a driver to, or fails to, if it is such an event. -/
def Usb.BusEvent.attaches : BusEvent → List UInt8
  | .call _ e => e.call.attaches
  | _ => []

/-- The interface that an event has detached a driver from, if it has. -/
def Usb.BusEvent.detaches : BusEvent → List UInt8
  | .call _ ⟨.detachDriver interface, .ok true⟩ => [interface]
  | _ => []

theorem Usb.Call.attaches_of_isTraffic {c : Call} (h : c.isTraffic) : c.attaches = [] := by
  cases c with
  | attachDriver => cases h
  | _ => rfl

theorem flatMap_attaches_traffic (number : Nat) {traffic : List Usb.Event}
    (h : ∀ e ∈ traffic, e.call.isTraffic) :
    (traffic.map (BusEvent.call number)).flatMap BusEvent.attaches = [] := by
  refine List.flatMap_eq_nil_iff.2 fun event he => ?_
  obtain ⟨e, hmem, rfl⟩ := List.mem_map.1 he
  exact Call.attaches_of_isTraffic (h e hmem)

theorem flatMap_detaches_traffic (number : Nat) {traffic : List Usb.Event}
    (h : ∀ e ∈ traffic, e.call.isTraffic) :
    (traffic.map (BusEvent.call number)).flatMap BusEvent.detaches = [] := by
  refine List.flatMap_eq_nil_iff.2 fun event he => ?_
  obtain ⟨⟨c, answer⟩, hmem, rfl⟩ := List.mem_map.1 he
  have ht := h _ hmem
  cases c with
  | detachDriver => cases ht
  | _ => rfl

theorem Usb.BusEvent.attaches_of_isOutside {event : BusEvent} (h : event.isOutside) :
    event.attaches = [] := by
  cases event with
  | call number e =>
    obtain ⟨c, answer⟩ := e
    cases c with
    | attachDriver => cases h
    | _ => rfl
  | _ => rfl

theorem Usb.BusEvent.detaches_of_isOutside {event : BusEvent} (h : event.isOutside) :
    event.detaches = [] := by
  cases event with
  | call number e =>
    obtain ⟨c, answer⟩ := e
    cases c with
    | detachDriver =>
      cases answer with
      | ok => cases h
      | error => rfl
    | _ => rfl
  | _ => rfl

section

variable (number : Nat) (interface alternate : UInt8) (detached : Bool)

theorem flatMap_attaches_claiming (claimed : Except BusError Unit) :
    (claiming number interface alternate detached claimed).flatMap BusEvent.attaches = [] :=
  rfl

theorem flatMap_detaches_claiming (claimed : Except BusError Unit) :
    (claiming number interface alternate detached claimed).flatMap BusEvent.detaches =
      if detached then [interface] else [] := by
  cases detached <;> rfl

theorem flatMap_attaches_returning (attached : Except BusError Unit) :
    (returning number interface detached attached).flatMap BusEvent.attaches =
      if detached then [interface] else [] := by
  cases detached <;> rfl

theorem flatMap_detaches_returning (attached : Except BusError Unit) :
    (returning number interface detached attached).flatMap BusEvent.detaches = [] := by
  cases detached <;> rfl

end

/-- In a record of complete brackets a driver is attached for each one that was detached, in the same
order. -/
theorem Bracketed.attaches_eq_detaches {log : List BusEvent} (h : Bracketed log) :
    log.flatMap BusEvent.attaches = log.flatMap BusEvent.detaches := by
  induction h with
  | nil => rfl
  | outside _ he ih =>
    simp [List.flatMap_append, ih, BusEvent.attaches_of_isOutside he,
      BusEvent.detaches_of_isOutside he]
  | refused _ number interface alternate detached e attached ih =>
    simp only [List.flatMap_append, ih, flatMap_attaches_claiming, flatMap_detaches_claiming,
      flatMap_attaches_returning, flatMap_detaches_returning, List.append_nil]
  | claimed _ number interface alternate detached ht released attached ih =>
    have hattaches : (BusEvent.call number ⟨.release interface, released⟩).attaches = [] := rfl
    have hdetaches : (BusEvent.call number ⟨.release interface, released⟩).detaches = [] := rfl
    simp only [List.flatMap_append, List.flatMap_cons, ih, flatMap_attaches_claiming,
      flatMap_detaches_claiming, flatMap_attaches_traffic number ht,
      flatMap_detaches_traffic number ht, hattaches, hdetaches, flatMap_attaches_returning,
      flatMap_detaches_returning, List.append_nil, List.nil_append]

/-! ## The bus of a host -/

namespace HostBus

/-- Nothing is held on the host, and drivers have been attached as recorded. -/
def Returned (s : HostBus × List BusEvent) : Prop :=
  Ledger [] [] (s.2.flatMap BusEvent.attaches) s.1.host

/-- The claims and endpoints of the host are those of one opened device, and drivers have been attached as
recorded. -/
def Lent (number : Nat) (s : HostBus × List BusEvent) : Prop :=
  ∃ o, s.1.opened[number]? = some o ∧ Seat.Accounted (s.2.flatMap BusEvent.attaches) ⟨o, s.1.host⟩

section

variable {drivers : List UInt8}

/-- A call of the host that has nothing to do with claims and drivers. -/
theorem ensures_ask {α : Type} {request : Request α} (h : Respects Plain request) :
    Ensures (fun b => Ledger [] [] drivers b.host) (HostBus.ask request)
      (fun _ b => Ledger [] [] drivers b.host) fun _ b => Ledger [] [] drivers b.host := by
  intro b hb
  have hasked : Ledger [] [] drivers (request b.host).2 := hb.plain (h b.host)
  unfold HostBus.ask
  generalize request b.host = answered at *
  rcases answered with ⟨e | a, host⟩ <;> exact hasked

/-- An opened device holds nothing yet. -/
theorem ensures_openDevice (info : DeviceInfo) :
    Ensures (fun b => Ledger [] [] drivers b.host) (openDevice info)
      (fun number b => ∃ o, b.opened[number]? = some o ∧ Seat.Accounted drivers ⟨o, b.host⟩)
      fun _ b => Ledger [] [] drivers b.host := by
  refine (ensures_ask plain_listDevices).bind fun infos => ?_
  split
  · exact ensures_throw fun _ => id
  · next place _ =>
    refine (ensures_ask (plain_enter rfl rfl)).bind fun _ => ensures_get_self.bind fun counted => ?_
    rintro b ⟨rfl, hb⟩
    exact ⟨{ place }, List.getElem?_concat_length, hb⟩

end

/-- An event of the bus that attaches no driver leaves what has been attached. -/
theorem flatMap_attaches_concat {log : List BusEvent} (event : BusEvent) (h : event.attaches = []) :
    (log ++ [event]).flatMap BusEvent.attaches = log.flatMap BusEvent.attaches := by
  simp [h]

theorem returned_enumerate :
    Respects (Preserves Returned) behaviour.recorded.enumerate := by
  intro s hs
  have hasked : Ledger [] [] _ _ := hs.plain (plain_listDevices s.1.host)
  rw [← flatMap_attaches_concat (.enumerate (behaviour.enumerate s.1).1) rfl] at hasked
  exact hasked

theorem lent_openDevice (info : DeviceInfo) (s : HostBus × List BusEvent) (hs : Returned s) :
    match behaviour.recorded.openDevice info s with
    | (.error _, t) => Returned t
    | (.ok number, t) => Lent number t := by
  have hopened := ensures_openDevice info s.1 hs
  have hrecorded : behaviour.recorded.openDevice info s =
      ((openDevice info s.1).1, (openDevice info s.1).2,
        s.2 ++ [.openDevice info (openDevice info s.1).1]) := rfl
  rw [hrecorded]
  generalize openDevice info s.1 = answered at *
  rcases answered with ⟨e | number, b⟩
  · dsimp only [Returned]
    rwa [flatMap_attaches_concat _ rfl]
  · dsimp only [Lent]
    rwa [flatMap_attaches_concat _ rfl]

/-- Whatever call is made of a device, the claims and endpoints of the host stay its own. -/
theorem lent_perform (number : Nat) (c : Call) :
    Respects (Preserves (Lent number)) ((behaviour.recorded.device number).perform c) := by
  rintro ⟨b, log⟩ ⟨o, ho, haccounted⟩
  have hperformed := ensures_perform c ⟨o, b.host⟩ haccounted
  have hrecorded : (behaviour.recorded.device number).perform c (b, log) =
      (((device number).perform c b).1, ((device number).perform c b).2,
        log ++ [.call number ⟨c, ((device number).perform c b).1⟩]) := rfl
  have hdevice : (device number).perform c b =
      ((Host.perform c ⟨o, b.host⟩).1, ⟨(Host.perform c ⟨o, b.host⟩).2.host,
        b.opened.set number (Host.perform c ⟨o, b.host⟩).2.opened⟩) := by
    dsimp only [device]
    rw [ho]
    rfl
  rw [hrecorded, hdevice]
  refine ⟨(Host.perform c ⟨o, b.host⟩).2.opened, ?_, ?_⟩
  · have hlt : number < b.opened.length := (List.getElem?_eq_some_iff.1 ho).1
    simp [hlt]
  · have hlog (answer : Except BusError c.Answer) :
        (log ++ [BusEvent.call number ⟨c, answer⟩]).flatMap BusEvent.attaches =
          log.flatMap BusEvent.attaches ++ c.attaches := by
      simp [BusEvent.attaches]
    dsimp only
    rw [hlog]
    generalize Host.perform c ⟨o, b.host⟩ = answered at *
    rcases answered with ⟨e | a, seat⟩ <;> exact hperformed

/-- When a device is let go of, nothing is held any more. -/
theorem returned_letGo {number : Nat} {s : HostBus × List BusEvent} (hs : Lent number s) :
    Returned (behaviour.recorded.letGo number s) := by
  obtain ⟨o, ho, haccounted⟩ := hs
  have hletGo : (letGo number s.1).host = (letGoOfDevice ⟨o, s.1.host⟩).host := by
    unfold letGo
    rw [ho]
  have hlet := ledger_letGoOfDevice haccounted
  rw [← hletGo, ← flatMap_attaches_concat (.letGo number) rfl] at hlet
  exact hlet

/-! ## Sessions -/

theorem ensures_openLink_lent (info : DeviceInfo) (settings : Settings) :
    Ensures Returned (Session.openLink behaviour.recorded info settings)
      (fun opened => Lent opened.handle) fun _ => Returned := by
  have hmade (number : Nat) : Ensures (Lent number)
      (Link.establish (behaviour.recorded.device number) info settings) (fun _ => Lent number)
      fun _ => Lent number :=
    (Link.respects_establish (lent_perform number) info settings).ensures fun _ _ => id
  refine Session.ensures_openLink_of (fun s hs => ?_) fun number =>
    (hmade number).mono (fun _ _ => id) fun _ _ => returned_letGo
  have hopened := lent_openDevice info s hs
  generalize behaviour.recorded.openDevice info s = found at *
  rcases found with ⟨e | number, t⟩ <;> exact hopened

/-- The claims and endpoints of the host are those of the device of an open session. -/
theorem lasts_lent (settings : Settings) :
    Session.Lasts behaviour.recorded settings Returned fun opened => Lent opened.handle where
  resolve := Session.respects_resolve returned_enumerate
  openLink info _ := ensures_openLink_lent info _
  setTimeout h _ := h
  operate {opened s c} h hm := by
    obtain ⟨events, ht, -⟩ := hm.exists_trace
    exact ht.related (lent_perform opened.handle) h
  close {opened s} h :=
    returned_letGo (Link.related_handBack (lent_perform opened.handle) ⟨opened.link, s⟩ h)

end HostBus

end Benchtop
