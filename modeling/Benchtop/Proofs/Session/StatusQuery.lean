import Benchtop.Proofs.Session.Dialogue
import Benchtop.Proofs.Text.Grammar

/-!
# The status byte of an instrument without the request for it

An instrument of the basic protocol is asked for its status byte by a message. So the session does what it
does to ask any other message, and all that is particular is how the answer is read (`Text.Tells`): white
space around it does not count, and neither do a plus sign and zeros before the number, but it must be a
number, and of one byte.

Main statement: where asking the message fails, the failure is the one of reading the status byte; where it
gives an answer, the status byte is the number that the answer tells, and there is none if it tells none
(`readStatusByte_basic`).
-/

namespace Benchtop

open Usb Wire

variable {σ : Type}

/-- The text of an answer is a decimal numeral of a number, with white space around it. -/
def Text.Tells (answer : List UInt8) (value : Nat) : Prop :=
  ∃ core, Trims (responseText answer) core ∧ Numeral 10 value core

/-! ## Reading the answer -/

namespace Link

/-- What is made of the answer to the query of the status byte. -/
def statusVerdict (answer : List UInt8) : Except Failure UInt8 :=
  let text := Text.responseText answer
  match Text.readUnsigned 10 255 (Text.trim text) with
  | some n => .ok (.ofNat n)
  | none => .error (.badAnswer (.noStatusByte (String.ofList text)))

theorem readUnsigned_eq_some_iff_tells {answer : List UInt8} {value : Nat} :
    Text.readUnsigned 10 255 (Text.trim (Text.responseText answer)) = some value ↔
      Text.Tells answer value ∧ value ≤ 255 := by
  rw [Text.readUnsigned_eq_some_iff (by decide), Text.Tells]
  refine and_congr_left fun _ => ⟨fun h => ⟨_, Text.trims_trim _, h⟩, ?_⟩
  rintro ⟨core, htrims, hnumeral⟩
  rwa [Text.trim_eq_iff.2 htrims]

/-- The verdict is a byte exactly if the answer tells it. -/
theorem statusVerdict_eq_ok_iff {answer : List UInt8} {n : UInt8} :
    statusVerdict answer = .ok n ↔ Text.Tells answer n.toNat := by
  have hread (value : Nat) : _ ↔ Text.Tells answer value ∧ value ≤ 255 := readUnsigned_eq_some_iff_tells
  have hbyte := hread n.toNat
  rw [and_iff_left (Nat.le_of_lt_succ n.toNat_lt)] at hbyte
  rw [← hbyte, statusVerdict]
  cases hfound : Text.readUnsigned 10 255 (Text.trim (Text.responseText answer)) with
  | none => exact iff_of_false nofun nofun
  | some value =>
    have hlt : value < UInt8.size := Nat.lt_succ_of_le ((hread value).1 hfound).2
    rw [Option.some_inj, Except.ok.injEq]
    constructor
    · rintro rfl
      exact (UInt8.toNat_ofNat_of_lt' hlt).symm
    · rintro rfl
      exact UInt8.ofNat_toNat

/-- Every other answer is quoted in the failure. -/
theorem statusVerdict_of_not_tells {answer : List UInt8} (h : ¬∃ n : UInt8, Text.Tells answer n.toNat) :
    statusVerdict answer =
      .error (.badAnswer (.noStatusByte (String.ofList (Text.responseText answer)))) := by
  rcases hverdict : statusVerdict answer with e | n
  · unfold statusVerdict at hverdict
    dsimp only at hverdict
    split at hverdict
    · cases hverdict
    · exact hverdict.symm
  · exact absurd ⟨n, statusVerdict_eq_ok_iff.1 hverdict⟩ h

theorem queryStatusByte_eq (dev : Device σ) :
    queryStatusByte dev = (do
      writeMessage dev (Text.bytesOf "*STB?")
      let answer ← readMessage dev
      MonadExcept.ofExcept (statusVerdict answer)) := by
  have hread (answer : List UInt8) :
      (match Text.readUnsigned 10 255 (Text.trim (Text.responseText answer)) with
        | some n => pure (UInt8.ofNat n)
        | none => throw (.badAnswer (.noStatusByte (String.ofList (Text.responseText answer)))) :
          Exchange σ UInt8) = MonadExcept.ofExcept (statusVerdict answer) := by
    rw [statusVerdict]
    cases Text.readUnsigned 10 255 (Text.trim (Text.responseText answer)) <;> rfl
  exact congrArg (fun made => writeMessage dev (Text.bytesOf "*STB?") >>= fun _ => readMessage dev >>= made)
    (funext hread)

end Link

namespace Session

variable {bus : Bus σ} {b : Bench σ} {opened : OpenedDevice}

/-- Actions on the link of an open session, one after the other. -/
theorem onLink_bind_apply {α β : Type} (ho : b.session.opened = some opened)
    (action : Device σ → Exchange σ α) (next : α → Device σ → Exchange σ β) :
    onLink bus (fun dev => action dev >>= fun a => next a dev) b =
      (onLink bus action >>= fun a => onLink bus (next a)) b := by
  rw [onLink_apply ho, bind_apply, bind_apply, onLink_apply ho]
  rcases action (bus.device opened.handle) ⟨opened.link, b.bus⟩ with ⟨_ | a, c⟩
  · rfl
  · have hnext : (⟨{ b.session with opened := some { opened with link := c.link } }, c.device⟩ :
        Bench σ).session.opened = some { opened with link := c.link } := rfl
    exact (onLink_apply hnext (next a)).symm

/-- The status byte of an open session of the basic protocol is what is made of the answer to the query. -/
theorem onLink_readStatusByte_apply (ho : b.session.opened = some opened)
    (hmode : opened.link.statusMode = .basic) :
    onLink bus Link.readStatusByte b = (do
      let answer ← askRaw bus (Text.bytesOf "*STB?")
      onLink bus fun _ => MonadExcept.ofExcept (Link.statusVerdict answer)) b := by
  have hquery : onLink bus Link.readStatusByte b = onLink bus Link.queryStatusByte b := by
    rw [onLink_apply ho, onLink_apply ho, Link.readStatusByte, get_bind_apply]
    dsimp only
    rw [hmode]
  rw [hquery, funext Link.queryStatusByte_eq, onLink_bind_apply ho, askRaw, bind_assoc, bind_apply,
    bind_apply, writeRaw]
  cases hwritten : onLink bus (fun dev => Link.writeMessage dev (Text.bytesOf "*STB?")) b with
  | mk made b' =>
    cases made with
    | error e => rfl
    | ok =>
      obtain ⟨opened', c, -, rfl⟩ := exists_of_onLink_eq_ok hwritten
      exact onLink_bind_apply rfl _ _

/-- With an answer to the query, reading the status byte gives the verdict on it, and does no more. -/
theorem onLink_readStatusByte_of_answer (ho : b.session.opened = some opened)
    (hmode : opened.link.statusMode = .basic) {answer : List UInt8} {b' : Bench σ}
    (hask : askRaw bus (Text.bytesOf "*STB?") b = (.ok answer, b')) :
    onLink bus Link.readStatusByte b = (Link.statusVerdict answer, b') := by
  obtain ⟨_, written, -, hread⟩ := exists_of_bind_eq_ok hask
  obtain ⟨opened', c, -, rfl⟩ := exists_of_onLink_eq_ok hread
  rw [onLink_readStatusByte_apply ho hmode, bind_of_ok hask, onLink]
  dsimp only
  rw [ofExcept_apply]

/-- In an open session of the basic protocol, on a device of any behaviour, reading the status byte is
asking the query: it is written, one message is read, and the session and the bus are left as by that, so a
bus that records its calls has recorded the same ones. If asking fails, this is the failure. Otherwise it
gives a byte exactly if the answer tells it, and it fails on every answer that tells none. -/
theorem readStatusByte_basic (bus : Bus σ) {b : Bench σ} {opened : OpenedDevice}
    (ho : b.session.opened = some opened) (hmode : opened.link.statusMode = .basic) :
    (∀ e b', askRaw bus (Text.bytesOf "*STB?") b = (.error e, b') →
      Operation.readStatusByte.perform bus b = (.error e, b')) ∧
    ∀ answer b', askRaw bus (Text.bytesOf "*STB?") b = (.ok answer, b') →
      (∀ n : UInt8, Operation.readStatusByte.perform bus b = (.ok (.byte n), b') ↔
        Text.Tells answer n.toNat) ∧
      ((¬∃ n : UInt8, Text.Tells answer n.toNat) →
        Operation.readStatusByte.perform bus b =
          (.error (.badAnswer (.noStatusByte (String.ofList (Text.responseText answer)))), b')) := by
  have hperform : Operation.readStatusByte.perform bus b =
      ((onLink bus Link.readStatusByte b).1.map .byte, (onLink bus Link.readStatusByte b).2) :=
    bind_pure_apply _ _ b
  rw [hperform]
  constructor
  · intro e b' hask
    rw [onLink_readStatusByte_apply ho hmode, bind_of_error hask]
    rfl
  · intro answer b' hask
    rw [onLink_readStatusByte_of_answer ho hmode hask]
    refine ⟨fun n => ?_, fun hnone => ?_⟩
    · rw [← Link.statusVerdict_eq_ok_iff]
      cases Link.statusVerdict answer with
      | error e => exact iff_of_false nofun nofun
      | ok n' =>
        refine ⟨fun hread => ?_, fun hverdict => ?_⟩
        · cases hread
          rfl
        · cases hverdict
          rfl
    · rw [Link.statusVerdict_of_not_tells hnone]
      rfl

/-- Replies to the query by the number 7, with a blank, a plus sign and zeros before it, and with a tab and
line ends after it. -/
def paddedReply (message : List UInt8) : List UInt8 :=
  if message = Text.bytesOf "*STB?" then Text.bytesOf " +007\t\r\n" else []

/-- The status byte of an instrument that replies so, three bytes at a time, is 7. -/
theorem readStatusByte_basic_paddedReply :
    ∃ b', askRaw (Instrument.bus paddedReply 3) (Text.bytesOf "*STB?") (Instrument.opened paddedReply 3) =
        (.ok (Text.bytesOf " +007\t\r\n"), b') ∧
      Operation.readStatusByte.perform (Instrument.bus paddedReply 3) (Instrument.opened paddedReply 3) =
        (.ok (.byte 7), b') := by
  let b := Instrument.opened paddedReply 3
  let opened := b.session.opened.get rfl
  have hp : opened.link.profile ≠ .ieeeBlock := nofun
  have ho : b.session.opened = some opened := rfl
  have hcomplies : Complies ((Instrument.bus paddedReply 3).device opened.handle)
      opened.link.endpoints.bulkOut opened.link.endpoints.bulkIn paddedReply (· = ·) :=
    Instrument.complies_device paddedReply (by decide) _ _
  obtain ⟨tags, t, hask, -⟩ := exists_askRaw (b := b) hp hcomplies (by decide) (Text.bytesOf "*STB?")
    opened.link.tags (s := b.bus) rfl
  have htells : Text.Tells (Text.bytesOf " +007\t\r\n") 7 := by
    have htrims : Text.Trims (Text.responseText (Text.bytesOf " +007\t\r\n")) ['+', '0', '0', '7'] :=
      { around := ⟨[' '], ['\t'], rfl, List.forall_mem_singleton.2 rfl, List.forall_mem_singleton.2 rfl⟩
        first := fun _ hc => Option.some.inj hc ▸ rfl
        last := fun _ hc => Option.some.inj hc ▸ rfl }
    have hdigit (d : Nat) (hd : d < 10) : Text.IsDigit 10 d (Text.lowerDigit d) := ⟨hd, .inl rfl⟩
    have hdigits : List.Forall₂ (Text.IsDigit 10) [0, 0, 7] ['0', '0', '7'] :=
      .cons (hdigit 0 (by decide)) (.cons (hdigit 0 (by decide)) (.cons (hdigit 7 (by decide)) .nil))
    exact ⟨_, htrims, .inr ⟨_, rfl, nofun, _, hdigits, rfl⟩⟩
  have hread := (readStatusByte_basic (Instrument.bus paddedReply 3) ho rfl).2 _ _ hask
  exact ⟨_, hask, (hread.1 7).2 htells⟩

end Session

end Benchtop
