import Benchtop.Proofs.Link.Course
import Benchtop.Proofs.Session.Run
import Benchtop.Scripted.Bus

/-!
# Recovery from a timeout

The course of the transfers of an open session. Main statement: whatever the device answers, a
transfer of a write, a read or a trigger that times out is followed by exactly one abort, as many polls
long as the settings allow at most, and one that fails otherwise is followed by nothing; the operation
reports the failure of the transfer and no other (`course_of_transfers`).
-/

namespace Benchtop.Session

open Usb Link

variable {σ : Type} {bus : Bus σ}

/-- What an open session records of a write, a read and a trigger. -/
theorem course_of_transfers {b : Bench σ} (hb : Reachable bus b) {opened : OpenedDevice}
    (ho : b.session.opened = some opened) :
    let dev := (bus.device opened.handle).recorded
    let c : Connection (σ × List Event) := ⟨opened.link, (b.bus, [])⟩
    let limit := max b.session.settings.maxStatusPolls.toNat 1
    (∀ data, Course opened.link limit (writeMessage dev data c).1
        (writeMessage dev data c).2.device.2) ∧
      Course opened.link limit (readMessage dev c).1 (readMessage dev c).2.device.2 ∧
      Course opened.link limit (trigger dev c).1 (trigger dev c).2.device.2 := by
  intro dev c limit
  have hpolls : opened.link.timing.maxPolls = limit := hb.maxPolls_eq ho
  have hlimit : 0 < opened.link.timing.maxPolls := hpolls ▸ Nat.le_max_right _ 1
  rw [← hpolls]
  have hconveys := conveys_flows hlimit (bus.device opened.handle)
  exact ⟨fun data => course_of_ensures (hconveys.writeMessage data) b.bus,
    course_of_ensures hconveys.readMessage b.bus, course_of_ensures hconveys.trigger b.bus⟩

/-- An open session with an instrument that does not take the next transfer, grants its abort, and is
done with that at the second poll. -/
def stuck : Bench ScriptedBus :=
  let info : DeviceInfo := ⟨0x1334, 1, none, "mock", 1, []⟩
  let device : ScriptedDevice :=
    { ScriptedDevice.plain with
      bulkOutErrors := [.timedOut 5000]
      controlQueue := [(1, .ok [1]), (2, .ok [2, 1]), (2, .ok [0x81])] }
  (run ScriptedBus.behaviour [.openUp]
    ⟨{ resource := .attached info, settings := { maxStatusPolls := 2 } },
      { devices := [(info, device)] }⟩).2

/-- A transfer, the start of its abort, two polls, no drain, and the clearing of the halt. -/
theorem course_of_transfers_stuck :
    ∃ opened, stuck.session.opened = some opened ∧
      let dev := (ScriptedBus.behaviour.device opened.handle).recorded
      let c : Connection (ScriptedBus × List Event) := ⟨opened.link, (stuck.bus, [])⟩
      (writeMessage dev [7] c).1.isOk = false ∧ (writeMessage dev [7] c).2.device.2.length = 5 ∧
        Course opened.link 2 (writeMessage dev [7] c).1 (writeMessage dev [7] c).2.device.2 := by
  have hreachable : Reachable ScriptedBus.behaviour stuck := ⟨_, _, _, _, rfl⟩
  have hlimit : max stuck.session.settings.maxStatusPolls.toNat 1 = 2 := by decide +kernel
  have hwrite : (stuck.session.opened.map fun opened =>
      let outcome := writeMessage (ScriptedBus.behaviour.device opened.handle).recorded [7]
        ⟨opened.link, (stuck.bus, [])⟩
      (outcome.1.isOk, outcome.2.device.2.length)) = some (false, 5) := by decide +kernel
  obtain ⟨opened, ho, he⟩ := Option.map_eq_some_iff.1 hwrite
  obtain ⟨hanswer, hlength⟩ := Prod.mk.inj he
  have hcourse := (course_of_transfers hreachable ho).1 [7]
  rw [hlimit] at hcourse
  exact ⟨opened, ho, hanswer, hlength, hcourse⟩

end Benchtop.Session
