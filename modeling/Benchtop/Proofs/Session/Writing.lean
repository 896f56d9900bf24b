import Benchtop.Proofs.Link.Writing
import Benchtop.Proofs.Session.Run
import Benchtop.Scripted.Bus

/-!
# Writing a message in an open session

Main statement: in every session that is open, on an instrument whose messages may be split, a write
of any data sends transfers that carry the data (`Link.Carries`), whatever the settings say of the
size of transfers and whatever tag was used last. A scripted device that is claimed and has no failure
to report accepts every transfer (`ScriptedBus.accepts_device`).
-/

namespace Benchtop

open Usb Wire

/-! ## Scripted devices -/

/-- A claimed device with no failure to report accepts any transfer, and stays as it is in both. -/
theorem ScriptedDevice.exists_perform_bulkOut {d : ScriptedDevice} (hc : d.claimed ≠ none)
    (he : d.bulkOutErrors = []) (endpoint : UInt8) (data : List UInt8) (timeout : Duration) :
    ∃ d', d.perform (.bulkOut endpoint data timeout) = (.ok data.length, d') ∧
      d'.claimed ≠ none ∧ d'.bulkOutErrors = [] := by
  have hn : d.claimed.isNone = false := by simpa [Option.isSome_iff_ne_none] using hc
  simp only [ScriptedDevice.perform, Scripted.Faulty.ofCall, Option.bind_none, respond, logged,
    acceptBulkOut, hn, he, Bool.false_eq_true, if_false]
  refine ⟨_, rfl, ?_⟩
  split
  · split <;> exact ⟨hc, rfl⟩
  · exact ⟨hc, rfl⟩

/-- The device at a place is claimed and has no failure of a bulk OUT transfer to report. -/
def ScriptedBus.Ready (place : Nat) (bus : ScriptedBus) : Prop :=
  ∃ info d, bus.devices[place]? = some (info, d) ∧ d.claimed ≠ none ∧ d.bulkOutErrors = []

theorem ScriptedBus.accepts_device (place : Nat) (endpoint : UInt8) :
    (ScriptedBus.device place).Accepts endpoint (Ready place) := by
  rintro bus ⟨info, d, hd, hc, he⟩ data timeout
  obtain ⟨d', hperform, hready⟩ := d.exists_perform_bulkOut hc he endpoint data timeout
  obtain ⟨hlt, -⟩ := List.getElem?_eq_some_iff.1 hd
  refine ⟨data.length, { bus with devices := bus.devices.set place (info, d') }, ?_,
    info, d', List.getElem?_set_self hlt, hready⟩
  simp only [device, hd, hperform]

/-! ## Writing -/

namespace Session

variable {σ : Type} {bus : Bus σ}

/-- A device that accepts every transfer is sent the data in fragments that fit the limit of the
settings, and nothing else. -/
theorem writeMessage_lossless {b : Bench σ} (hb : Reachable bus b) {opened : OpenedDevice}
    (ho : b.session.opened = some opened) (hp : opened.link.profile.splitsMessages)
    {ready : σ → Prop} (ha : (bus.device opened.handle).Accepts opened.link.endpoints.bulkOut ready)
    (hr : ready b.bus) (tag : UInt8) (data : List UInt8) (log : List Event) :
    let link := { opened.link with tags := ⟨tag⟩ }
    ∃ transfers fragments events s,
      Link.writeMessage (bus.device opened.handle).recorded data ⟨link, (b.bus, log)⟩ =
          (.ok (), ⟨{ link with tags := TagCounter.next^[transfers.length] ⟨tag⟩ },
            (s, log ++ events)⟩) ∧
        link.Accepted transfers events ∧
        Link.Carries (max b.session.settings.maxTransferSize 1).toNat tag data transfers
          fragments := by
  intro link
  have hpos : 0 < link.maxTransferSize.toNat := hb.maxTransferSize_pos ho
  have hcarries := Link.carries_fragments hpos (UInt32.toNat_lt_size _) tag data
  obtain ⟨events, s, haccepted, ht⟩ := Device.Accepts.exists_trace link ha
    ((Link.fragments ⟨tag⟩ (Link.pieces link.maxTransferSize.toNat data)).map (·.transfer)) hr
  have hsend := Link.sendPieces_of_trace haccepted (ht.recorded log)
  rw [← hb.maxTransferSize_eq ho]
  refine ⟨_, _, events, s, ?_, haccepted, hcarries⟩
  rw [Link.writeMessage_apply link hp, hsend, List.length_map, Link.length_fragments]

/-- A session that has been opened on the one instrument of a scripted bus, with room for `size`
bytes in an envelope. -/
def openedPlain (size : UInt32) : Bench ScriptedBus :=
  let info : DeviceInfo := ⟨0x1334, 1, none, "mock", 1, []⟩
  (run ScriptedBus.behaviour [.openUp]
    ⟨{ resource := .attached info, settings := { maxTransferSize := size } },
      { devices := [(info, .plain)] }⟩).2

theorem reachable_openedPlain (size : UInt32) :
    Reachable ScriptedBus.behaviour (openedPlain size) :=
  ⟨_, _, _, _, rfl⟩

/-- Ten bytes after tag 254, with room for four. -/
theorem writeMessage_lossless_openedPlain :
    ∃ opened, (openedPlain 4).session.opened = some opened ∧
      opened.link.profile.splitsMessages ∧ ScriptedBus.Ready opened.handle (openedPlain 4).bus ∧
      ∃ transfers fragments events s,
        Link.writeMessage (ScriptedBus.device opened.handle).recorded [0, 1, 2, 3, 4, 5, 6, 7, 8, 9]
            ⟨{ opened.link with tags := ⟨254⟩ }, ((openedPlain 4).bus, [])⟩ =
          (.ok (), ⟨{ opened.link with tags := TagCounter.next^[transfers.length] ⟨254⟩ },
            (s, [] ++ events)⟩) ∧
          Link.Carries 4 254 [0, 1, 2, 3, 4, 5, 6, 7, 8, 9] transfers fragments := by
  refine ⟨(openedPlain 4).session.opened.get rfl, rfl, rfl, ⟨_, _, rfl, nofun, rfl⟩, ?_⟩
  obtain ⟨transfers, fragments, events, s, hwrite, -, hcarries⟩ :=
    writeMessage_lossless (reachable_openedPlain 4) (Option.some_get _).symm rfl
      (ScriptedBus.accepts_device _ _) ⟨_, _, rfl, nofun, rfl⟩ 254 [0, 1, 2, 3, 4, 5, 6, 7, 8, 9] []
  exact ⟨transfers, fragments, events, s, hwrite, hcarries⟩

end Session

end Benchtop
