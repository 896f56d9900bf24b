import Benchtop.Link.Opening
import Benchtop.Proofs.Link.Moves
import Benchtop.Proofs.Wire.Envelope

/-!
# Requests that not every instrument takes

What may be asked of an instrument, read off the bytes of the call: a control request is one that the
instrument takes, by its code; a trigger message goes to an instrument that accepts it; a request for
data names a termination character if there is one and the instrument supports it; and the interrupt
endpoint is read where there is one and status bytes come on it (`Link.AllowsFor`). The bytes do not tell
taking remote control from locking the front panel. There the operation does that the call is made by.

Main statement: a link whose status mode was chosen by its capabilities asks nothing else
(`Link.AsksFor.allows`).
-/

namespace Benchtop

/-- The fields of the USB488 subclass are read for an interface of that subclass only. -/
theorem Wire.Capabilities.isExtended_of_parse {data : List UInt8} {usb488 : Bool}
    {capabilities : Capabilities} (h : parse data usb488 = .ok capabilities) :
    capabilities.isExtended = usb488 := by
  unfold parse at h
  split at h
  · cases h
  · dsimp only at h
    split at h
    · cases h
    · split at h
      · split at h
        · next hplain =>
          obtain rfl : usb488 = false := by simpa using hplain
          cases h
          rfl
        · next hextended =>
          obtain rfl : usb488 = true := by simpa using hextended
          split at h <;> cases h
          rfl
      · cases h

namespace Link

open Usb Wire

variable {link : Link} {wants : Request → Prop} {call : Call}

/-- Another request goes over the wire under the same code. -/
def SharesCode (r : Request) : Prop := ∃ other, other ≠ r ∧ other.code = r.code

/-- The call is one that the instrument supports. Where its code is that of two requests, it is the one
that the operation is made for. -/
def AllowsFor (link : Link) (wants : Request → Prop) : Call → Prop
  | .controlIn setup _ _ =>
    ∃ r : Request, r.code = setup.request ∧ link.Takes r ∧ (SharesCode r → wants r)
  | .interruptIn endpoint _ _ =>
    link.capabilities.isExtended ∧ link.capabilities.ieee4882 ∧
      link.endpoints.interruptIn = some endpoint
  | .bulkOut _ data _ =>
    (data.head? = some MessageKind.trigger.id →
      link.capabilities.isExtended ∧ link.capabilities.trigger) ∧
    ∀ e, Envelope.parse data .requestIn = .ok e → e.termChar.isSome →
      link.capabilities.termChar ∧ e.termChar = link.termChar
  | _ => True

/-- The call is one that the instrument supports, whatever operation it is made by. -/
abbrev Allows (link : Link) : Call → Prop := link.AllowsFor fun _ => True

/-- Only remote control and the front panel lock share a code. -/
theorem not_sharesCode {r : Request} (hremote : r ≠ .remoteEnable) (hlock : r ≠ .frontPanelLock) :
    ¬ SharesCode r := by
  rintro ⟨other, hne, hcode⟩
  cases r <;> cases other <;>
    first
    | exact hne rfl
    | exact hremote rfl
    | exact hlock rfl
    | exact absurd hcode (by decide)

theorem AllowsFor.mono {wants' : Request → Prop} (hw : ∀ r, SharesCode r → wants r → wants' r)
    (h : link.AllowsFor wants call) : link.AllowsFor wants' call := by
  cases call with
  | controlIn =>
    obtain ⟨r, hcode, htakes, hwants⟩ := h
    exact ⟨r, hcode, htakes, fun hs => hw r hs (hwants hs)⟩
  | _ => exact h

/-- A request with a code of its own is allowed where it is taken. -/
theorem allowsFor_of_takes {r : Request} (htakes : link.Takes r) (hremote : r ≠ .remoteEnable)
    (hlock : r ≠ .frontPanelLock) {setup : Setup} (hcode : r.code = setup.request) (length : UInt16)
    (timeout : Duration) : link.AllowsFor wants (.controlIn setup length timeout) :=
  ⟨r, hcode, htakes, fun hs => absurd hs (not_sharesCode hremote hlock)⟩

/-- Status bytes are requested where the instrument knows the request. -/
theorem takes_of_chooseStatusMode {capabilities : Capabilities} {interruptIn : Option UInt8}
    (h : (chooseStatusMode capabilities interruptIn).isExtended) :
    capabilities.isExtended ∧ capabilities.ieee4882 := by
  rw [← Bool.and_eq_true]
  unfold chooseStatusMode at h
  split at h
  · assumption
  · cases h

theorem interruptIn_of_chooseStatusMode {capabilities : Capabilities}
    {interruptIn : Option UInt8} {endpoint : UInt8}
    (h : chooseStatusMode capabilities interruptIn = .interrupt endpoint) :
    interruptIn = some endpoint := by
  unfold chooseStatusMode at h
  split at h
  · cases interruptIn with
    | none => cases h
    | some address =>
      cases h
      rfl
  · cases h

theorem Sends.allows {tag : UInt8} {bytes : List UInt8} (h : link.Sends tag bytes)
    (endpoint : UInt8) (timeout : Duration) :
    link.AllowsFor wants (.bulkOut endpoint bytes timeout) := by
  cases h with
  | piece piece isLast =>
    have hhead : ((Envelope.mk .dataOut tag (UInt32.ofNat piece.length) isLast none).frame
        piece).head? = some MessageKind.dataOut.id := rfl
    refine ⟨fun h => ?_, fun e he => ?_⟩
    · rw [hhead] at h
      cases h
    · rw [Envelope.head?_of_parse he] at hhead
      cases hhead
  | request =>
    refine ⟨fun h => ?_, fun e he => ?_⟩
    · cases h
    · have hparse := Envelope.parse_bytes_append (Envelope.request tag link.maxTransferSize
        (if link.capabilities.termChar then link.termChar else none)) []
      rw [List.append_nil] at hparse
      obtain rfl := Except.ok.inj (he.symm.trans hparse)
      dsimp only [Envelope.request]
      split
      · next hknown => exact fun _ => ⟨hknown, rfl⟩
      · nofun
  | trigger hknown =>
    refine ⟨fun _ => hknown, fun e he => ?_⟩
    cases Envelope.head?_of_parse he

/-- A link asks what the instrument supports. -/
theorem AsksFor.allows (h : link.AsksFor wants call)
    (hmode : link.statusMode = chooseStatusMode link.capabilities link.endpoints.interruptIn) :
    link.AllowsFor wants call := by
  cases h with
  | capabilities => exact allowsFor_of_takes (r := .getCapabilities) trivial nofun nofun rfl _ _
  | @request r _ htakes hwants => exact ⟨r, rfl, htakes, fun _ => hwants⟩
  | statusByte h =>
    rw [hmode] at h
    exact allowsFor_of_takes (r := .readStatusByte) (takes_of_chooseStatusMode h) nofun nofun rfl _ _
  | notification h =>
    rw [hmode] at h
    have htakes := takes_of_chooseStatusMode (by rw [h]; rfl)
    exact ⟨htakes.1, htakes.2, interruptIn_of_chooseStatusMode h⟩
  | diagnosticId h => exact allowsFor_of_takes (r := .diagnosticId) h nofun nofun rfl _ _
  | initiateClear => exact allowsFor_of_takes (r := .initiateClear) trivial nofun nofun rfl _ _
  | checkClear => exact allowsFor_of_takes (r := .checkClear) trivial nofun nofun rfl _ _
  | initiateAbort direction =>
    cases direction with
    | output => exact allowsFor_of_takes (r := .initiateAbortOut) trivial nofun nofun rfl _ _
    | input => exact allowsFor_of_takes (r := .initiateAbortIn) trivial nofun nofun rfl _ _
  | checkAbort direction =>
    cases direction with
    | output => exact allowsFor_of_takes (r := .checkAbortOut) trivial nofun nofun rfl _ _
    | input => exact allowsFor_of_takes (r := .checkAbortIn) trivial nofun nofun rfl _ _
  | transfer h => exact h.allows _ _
  | receive => trivial
  | drain => trivial
  | clearHalt => trivial

end Link

end Benchtop
