import Benchtop.Proofs.Link.Clearing
import Benchtop.Proofs.Session.Run
import Benchtop.Scripted.Bus

/-!
# What clearing comes to

An open session clears its instrument by a clear of its link, which polls as often as the settings allow,
and at least once. Main statement: at any point of any run, clearing makes the calls of a clear and no
others, succeeds if and only if the instrument has granted the clear, has come to a good end in time and
has had its halt cleared, and leaves the session as it is (`clear_run`).
-/

namespace Benchtop.Session

open Usb Wire Link

variable {σ : Type} {bus : Bus σ}

/-- On a bus of any behaviour, at any point of any run, while the session is open: a clear is one request,
as many polls as the instrument is pending and the settings allow, and the clearing of the halt of the bulk
OUT endpoint, which is made once if and only if the clear is granted and a poll in time, with all before it
pending, is a success. It succeeds if that does, and only then. Otherwise its failure is the one that the
answers to these requests make it; the transfer that is drained after each poll that asks for it, and after
no other, has no part in it. The session is as before, bulk tags included. -/
theorem clear_run {b : Bench (σ × List BusEvent)} (hb : Reachable bus.recorded b)
    {opened : OpenedDevice} (ho : b.session.opened = some opened) :
    let limit := max b.session.settings.maxStatusPolls.toNat 1
    ∃ (a : Clearing) (outcome : Except Failure Unit) (s : σ × List BusEvent),
      Operation.clear.perform bus.recorded b = (outcome.map fun _ => .done, ⟨b.session, s⟩) ∧
      s.2 = b.bus.2 ++ (a.events opened.link).map (.call opened.handle) ∧
      (a.cleared?.isSome ↔ ComesClear limit a.initiated a.answers) ∧
      (outcome = .ok () ↔ ComesClear limit a.initiated a.answers ∧ a.cleared? = some (.ok ())) ∧
      Clears limit a.initiated a.answers a.cleared? outcome ∧
      (∀ other, Clears limit a.initiated a.answers a.cleared? other → other = outcome) ∧
      ∀ p ∈ a.polls, p.drained?.isSome ↔ p.AsksDrain := by
  intro limit
  obtain ⟨a, outcome, s, hs, hclear, hclears, hdrained⟩ :=
    exists_clears_clear (bus.recorded.device opened.handle) ⟨opened.link, b.bus⟩
  rw [hb.maxPolls_eq ho] at hclears
  refine ⟨a, outcome, s, ?_, hs.busLog_eq, hclears.cleared_iff, hclears.eq_ok_iff, hclears,
    fun other hother => hother.unique hclears, hdrained⟩
  have hsame : { b.session with opened := some opened } = b.session := by rw [← ho]
  rw [Operation.perform, bind_pure_apply, onLink_apply ho, hclear]
  dsimp only
  rw [hsame]

/-- An open session with an instrument that grants a clear and is done with it at the third poll. After
the first it asks for a transfer that does not come. -/
def busyClearing : Bench (ScriptedBus × List BusEvent) :=
  let info : DeviceInfo := ⟨1, 2, none, "mock", 1, []⟩
  let device : ScriptedDevice :=
    { ScriptedDevice.plain with
      controlQueue := [(Request.initiateClear.code, .ok [1]), (Request.checkClear.code, .ok [2, 1]),
        (Request.checkClear.code, .ok [2, 0]), (Request.checkClear.code, .ok [1])] }
  (run ScriptedBus.behaviour.recorded [.openUp]
    ⟨{ resource := .attached info, settings := { maxStatusPolls := 3 } },
      ({ devices := [(info, device)] }, [])⟩).2

/-- The last poll that is allowed is in time, and the failure of the drain is passed over: six calls. -/
theorem clear_run_busy : ∃ (opened : OpenedDevice) (a : Clearing) (s : ScriptedBus × List BusEvent),
    busyClearing.session.opened = some opened ∧
    Operation.clear.perform ScriptedBus.behaviour.recorded busyClearing =
      (.ok .done, ⟨busyClearing.session, s⟩) ∧
    (a.events opened.link).length = 6 ∧ ComesClear 3 a.initiated a.answers ∧
    a.cleared? = some (.ok ()) := by
  have hreachable : Reachable ScriptedBus.behaviour.recorded busyClearing := ⟨_, _, _, _, rfl⟩
  have hlimit : max busyClearing.session.settings.maxStatusPolls.toNat 1 = 3 := by decide +kernel
  have hopened : busyClearing.session.opened.isSome := by decide +kernel
  have hdone : (Operation.clear.perform ScriptedBus.behaviour.recorded busyClearing).1.isOk := by
    decide +kernel
  have hlog : (Operation.clear.perform ScriptedBus.behaviour.recorded busyClearing).2.bus.2.length =
      busyClearing.bus.2.length + 6 := by decide +kernel
  obtain ⟨opened, ho⟩ := Option.isSome_iff_exists.1 hopened
  obtain ⟨a, outcome, s, hperform, hcalls, -, hok, -⟩ := clear_run hreachable ho
  rw [hlimit] at hok
  rw [hperform] at hdone hlog
  have hlength : (a.events opened.link).length = 6 := by
    rw [hcalls, List.length_append, List.length_map] at hlog
    exact Nat.add_left_cancel hlog
  obtain rfl : outcome = .ok () := by
    cases outcome with
    | error => cases hdone
    | ok => rfl
  obtain ⟨hclear, hhalt⟩ := hok.1 rfl
  exact ⟨opened, a, s, ho, hperform, hlength, hclear, hhalt⟩

end Benchtop.Session
