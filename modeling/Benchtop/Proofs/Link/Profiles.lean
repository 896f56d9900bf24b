import Benchtop.Proofs.Link.Markers

/-!
# Answers that are no definite blocks

The instruments of the block profile are read in another way than all others: only one envelope is asked
for, what it does not announce is cut off before more is fetched, and the prefix of a block is taken off.
If the first transfer is no pending marker and begins no definite block, and its envelope ends the
message, this comes to the same, but for the prefix `#0` of an indefinite block.

No part of a link below the reading of a message sees the profile (`commutes_requestData`,
`commutes_readAll`). What is left to compare is what is done with the first transfer
(`readMessage_of_last`, `readMessage_of_start`).

Main statement: of two links that differ in the profile alone, one of them of the block profile, both make
the same calls and give the same message or the same failure, whatever comes of the calls; if the message
is an indefinite block, the link of the block profile gives it without its prefix (`readMessage_profiles`).
-/

namespace Benchtop

open Usb Wire

variable {σ : Type} {dev : Device σ}

/-- The same connection, with another profile. -/
def Connection.reprofile (p : Profile) (c : Connection σ) : Connection σ :=
  { c with link.profile := p }

namespace Link

/-! ## What does not see the profile -/

section

variable {p : Profile}

theorem commutes_attempt (call : Call) : Commutes (.reprofile p) (attempt dev call) := fun _ => rfl

theorem commutes_call (call : Call) : Commutes (.reprofile p) (Link.call dev call) := fun _ => rfl

theorem commutes_nextTag : Commutes (.reprofile p) (nextTag : Exchange σ UInt8) := fun _ => rfl

theorem commutes_drainIfAsked (answer : List UInt8) :
    Commutes (.reprofile p) (drainIfAsked dev answer) := by
  unfold drainIfAsked
  split
  · split
    · exact commutes_get_seq (fun _ => rfl) fun _ => (commutes_attempt _).seq fun _ => commutes_skip ()
    · exact commutes_skip ()
  · exact commutes_skip ()

theorem commutes_pollStatus (procedure : Procedure) (setup : Setup) (length : UInt16)
    {onPending : List UInt8 → StateM (Connection σ) Unit}
    (hp : ∀ answer, Commutes (.reprofile p) (onPending answer)) (polls : Nat) :
    Commutes (.reprofile p) (pollStatus dev procedure setup length onPending polls) := by
  induction polls with
  | zero => exact commutes_get_bind (fun _ => rfl) fun _ => commutes_throw _
  | succ polls ih =>
    refine commutes_get_bind (fun _ => rfl) fun c => (commutes_call _).bind fun answer =>
      (commutes_ofExcept _).bind fun status => ?_
    split
    · exact (commutes_lift (hp answer)).bind fun _ => ih
    · exact commutes_pure _

theorem commutes_abortTransfer (procedure : Procedure) (initiate check : Request)
    (endpoint tag : UInt8) {onPending : List UInt8 → StateM (Connection σ) Unit}
    (hp : ∀ answer, Commutes (.reprofile p) (onPending answer)) :
    Commutes (.reprofile p)
      (abortTransfer dev procedure initiate check endpoint tag onPending) := by
  refine commutes_get_seq (fun _ => rfl) fun c => (commutes_attempt _).seq fun answer => ?_
  cases answer with
  | error e => exact commutes_skip false
  | ok answer =>
    dsimp only
    cases statusOf procedure.name answer with
    | error e => exact commutes_skip false
    | ok status =>
      cases status with
      | success =>
        exact Commutes.seq (commutes_pollStatus procedure _ 8 hp _) fun _ => commutes_skip _
      | _ => exact commutes_skip false

theorem commutes_abortOut (tag : UInt8) : Commutes (.reprofile p) (abortOut dev tag) := by
  refine commutes_get_seq (fun _ => rfl) fun c =>
    (commutes_abortTransfer _ _ _ _ _ fun _ => commutes_skip ()).seq fun finished => ?_
  split
  · exact (commutes_attempt _).seq fun _ => commutes_skip ()
  · exact commutes_skip ()

theorem commutes_abortIn (tag : UInt8) : Commutes (.reprofile p) (abortIn dev tag) :=
  commutes_get_seq (fun _ => rfl) fun _ =>
    (commutes_abortTransfer _ _ _ _ _ commutes_drainIfAsked).seq fun _ => commutes_skip ()

theorem commutes_send (tag : UInt8) (bytes : List UInt8) :
    Commutes (.reprofile p) (send dev tag bytes) := by
  rintro ⟨link, s⟩
  rcases h : dev.perform (.bulkOut link.endpoints.bulkOut bytes link.timing.timeout) s with
    ⟨error | n, t⟩
  · have hother : send dev tag bytes (.reprofile p ⟨link, s⟩) = _ := send_of_error h
    rw [send_of_error h, hother]
    split
    · exact congrArg (fun aborted => (_, aborted.2)) (commutes_abortOut tag ⟨link, t⟩)
    · rfl
  · rw [send_of_ok h]
    exact send_of_ok h

theorem commutes_receive (tag : UInt8) : Commutes (.reprofile p) (receive dev tag) := by
  rintro ⟨link, s⟩
  rcases h : dev.perform (.bulkIn link.endpoints.bulkIn
    (link.maxTransferSize.toNat + headerSize + 3) link.timing.timeout) s with ⟨error | data, t⟩
  · have hother : receive dev tag (.reprofile p ⟨link, s⟩) = _ := receive_of_error h
    rw [receive_of_error h, hother]
    split
    · exact congrArg (fun aborted => (_, aborted.2)) (commutes_abortIn tag ⟨link, t⟩)
    · rfl
  · rw [receive_of_ok h]
    exact receive_of_ok h

theorem commutes_readAll (tag : UInt8) (need : Nat) (data : List UInt8) :
    Commutes (.reprofile p) (readAll dev tag need data) := by
  fun_induction readAll dev tag need data with
  | case1 => exact commutes_pure _
  | case2 data hlt ih =>
    refine (commutes_receive tag).bind fun more => ?_
    split
    · exact commutes_throw _
    · next hmore => exact ih more hmore

theorem commutes_requestData : Commutes (.reprofile p) (requestData dev) := by
  refine commutes_nextTag.bind fun tag => commutes_get_bind (fun _ => rfl) fun c =>
    (commutes_send tag _).bind fun _ => (commutes_receive tag).bind fun bytes => ?_
  cases Envelope.parse bytes .dataIn with
  | error e => exact commutes_throw _
  | ok envelope =>
    dsimp only
    split
    · exact commutes_throw _
    · exact commutes_pure _

end

/-! ## After the first transfer -/

/-- What is cut off before more is fetched would be cut off afterwards. -/
theorem readAll_take {α : Type} (f : List UInt8 → α) (tag : UInt8) (need : Nat) (data : List UInt8)
    (c : Connection σ) :
    (do return f ((← readAll dev tag need (data.take need)).take need) : Exchange σ α) c =
      (do return f ((← readAll dev tag need data).take need) : Exchange σ α) c := by
  rw [bind_pure_apply, bind_pure_apply]
  by_cases h : data.length ≤ need
  · rw [List.take_of_length_le h]
  · have hdata : need ≤ data.length := Nat.le_of_not_le h
    have htake : need ≤ (data.take need).length := Nat.le_of_eq (List.length_take_of_le hdata).symm
    rw [readAll_of_le htake, readAll_of_le hdata]
    simp [Except.map, List.take_take]

/-- A message of which nothing is read. -/
theorem readMessage_of_failed {c c' : Connection σ} {failure : Failure}
    (h : requestData dev c = (.error failure, c')) : readMessage dev c = (.error failure, c') := by
  rw [readMessage]
  split
  · rw [readBlockMessage, bind_of_error h]
  · rw [Connection.readEnvelopes?, readEnvelope, bind_of_error h]
    rfl

/-- A message whose first envelope is its last. -/
theorem readMessage_of_last {c c' : Connection σ} (hp : c.link.profile ≠ .ieeeBlock)
    {first : FirstTransfer} (hfirst : requestData dev c = (.ok first, c'))
    (hlast : first.envelope.endOfMessage = true) :
    readMessage dev c =
      (do
        let size := first.envelope.size.toNat
        return (← readAll dev first.tag size first.body).take size : Exchange σ _) c' := by
  rw [readMessage, if_neg (mt Profile.readsBlocks_iff.1 hp), Connection.readEnvelopes?, readEnvelope,
    bind_of_ok hfirst]
  dsimp only
  rw [bind_pure_apply, bind_pure_apply, hlast]
  rcases readAll dev first.tag first.envelope.size.toNat first.body c' with ⟨e | data, d⟩ <;> rfl

/-- A message of the block profile whose first transfer is no pending marker and begins no definite
block. -/
theorem readMessage_of_start {c c' : Connection σ} (hp : c.link.profile = .ieeeBlock)
    {first : FirstTransfer} (hfirst : requestData dev c = (.ok first, c'))
    (hmarker : ¬ isPendingMarker (first.body.take first.envelope.size.toNat))
    (hblock : ∀ block : Block, ¬ block.announcement <+: first.body.take first.envelope.size.toNat) :
    readMessage dev c =
      (do
        let size := first.envelope.size.toNat
        let message := (← readAll dev first.tag size first.body).take size
        return if [35, 48] <+: first.body.take size then message.drop 2 else message :
          Exchange σ _) c' := by
  rw [readMessage, if_pos (Profile.readsBlocks_iff.2 hp), readBlockMessage, bind_of_ok hfirst]
  dsimp only
  rw [if_neg hmarker, readBlock, BlockHeader.parse?_of_not_prefix hblock]
  split
  · exact readAll_take (·.drop 2) _ _ _ _
  · exact readAll_take id _ _ _ _

/-! ## The two ways of reading -/

/-- The block profile makes of a message that is not a definite block what every other one makes of it, and
leaves out the prefix if it begins with that of an indefinite block. -/
theorem readMessage_reprofile {c c' : Connection σ} (hp : c.link.profile ≠ .ieeeBlock)
    {first : FirstTransfer} (hfirst : requestData dev c = (.ok first, c'))
    (hlast : first.envelope.endOfMessage = true)
    (hmarker : ¬ isPendingMarker (first.body.take first.envelope.size.toNat))
    (hblock : ∀ block : Block, ¬ block.announcement <+: first.body.take first.envelope.size.toNat) :
    let start := first.body.take first.envelope.size.toNat
    let plain := readMessage dev c
    readMessage dev (c.reprofile .ieeeBlock) =
        (plain.1.map fun message => if [35, 48] <+: start then message.drop 2 else message,
          plain.2.reprofile .ieeeBlock) ∧
      ∀ message, plain.1 = .ok message → start <+: message := by
  have hother : requestData dev (c.reprofile .ieeeBlock) = (.ok first, c'.reprofile .ieeeBlock) := by
    rw [commutes_requestData, hfirst]
  have hprofile : (c.reprofile .ieeeBlock).link.profile = .ieeeBlock := rfl
  dsimp only
  rw [readMessage_of_last hp hfirst hlast, readMessage_of_start hprofile hother hmarker hblock]
  dsimp only
  rw [bind_pure_apply, bind_pure_apply, commutes_readAll]
  rcases hread : readAll dev first.tag first.envelope.size.toNat first.body c' with
    ⟨failure | read, d⟩
  · exact ⟨rfl, nofun⟩
  · refine ⟨rfl, fun message he => ?_⟩
    obtain ⟨more, -, -, rfl⟩ := exists_of_readAll hread
    cases he
    rw [List.take_append]
    exact List.prefix_append _ _

/-- The next request for data is taken, and the first transfer after it begins with the envelope `e` and
brings `start` of the bytes that this announces. -/
def Begins (dev : Device σ) (c : Connection σ) (e : Envelope) (start : List UInt8) : Prop :=
  ∃ taken transfer t,
    dev.Trace c.device [requested c.link c.link.tags.next.current taken, received c.link transfer] t ∧
    Envelope.parse transfer .dataIn = .ok e ∧ start = (transfer.drop headerSize).take e.size.toNat

theorem Begins.unique {c : Connection σ} {e e' : Envelope} {start start' : List UInt8}
    (h : Begins dev c e start) (h' : Begins dev c e' start') : e = e' ∧ start = start' := by
  obtain ⟨taken, transfer, t, ⟨u, hu, v, hv, -⟩, hparse, rfl⟩ := h
  obtain ⟨taken', transfer', t', ⟨u', hu', v', hv', -⟩, hparse', rfl⟩ := h'
  obtain ⟨-, rfl⟩ := Prod.mk.inj (hu.symm.trans hu')
  obtain ⟨hanswer, -⟩ := Prod.mk.inj (hv.symm.trans hv')
  obtain rfl := Except.ok.inj hanswer
  obtain rfl := Except.ok.inj (hparse.symm.trans hparse')
  exact ⟨rfl, rfl⟩

/-- Take two links that differ in the profile alone, one of them of the block profile, and a device of any
behaviour. If the first transfer has the envelope of data, let this end the message, and let what it brings
neither be a pending marker nor begin a definite block. Then both links make the same calls, with the same
answers, and draw the same tags. One of them fails if and only if the other one does, with the same failure.
A message is the same on both, but that the link of the block profile leaves out the prefix `#0` of one
that begins with it. -/
theorem readMessage_profiles {link : Link} (hp : link.profile ≠ .ieeeBlock) {s : σ}
    (h : ∀ e start, Begins dev ⟨link, s⟩ e start → e.endOfMessage ∧ ¬ isPendingMarker start ∧
      ∀ block : Block, ¬ block.announcement <+: start) (log : List Event) :
    let plain := readMessage dev.recorded ⟨link, (s, log)⟩
    let block := readMessage dev.recorded ⟨{ link with profile := .ieeeBlock }, (s, log)⟩
    block.2 = ⟨{ plain.2.link with profile := .ieeeBlock }, plain.2.device⟩ ∧
    (∀ failure, block.1 = .error failure ↔ plain.1 = .error failure) ∧
    ∀ message, plain.1 = .ok message →
      ∃ e start, Begins dev ⟨link, s⟩ e start ∧ start <+: message ∧
        block.1 = .ok (if [35, 48] <+: start then message.drop 2 else message) := by
  intro plain block
  rcases requestData_cases dev.recorded ⟨link, (s, log)⟩ with
    ⟨taken, transfer, e, t, ht, hparse, -, hfirst⟩ | ⟨-, -, failure, c, -, -, -, hfails⟩
  · have hbegins : Begins dev ⟨link, s⟩ e ((transfer.drop headerSize).take e.size.toNat) :=
      ⟨taken, transfer, t.1, ht.of_recorded, hparse, rfl⟩
    obtain ⟨hlast, hmarker, hdefinite⟩ := h e _ hbegins
    obtain ⟨hblock, hstart⟩ := readMessage_reprofile hp hfirst hlast hmarker hdefinite
    replace hblock : block = _ := hblock
    rw [hblock]
    refine ⟨rfl, fun failure => ?_, fun message hmessage => ⟨e, _, hbegins, hstart message hmessage, ?_⟩⟩
    · dsimp only
      cases plain.1 <;> simp [Except.map]
    · dsimp only
      rw [hmessage]
      rfl
  · have hplain : plain = (.error failure, c) := readMessage_of_failed hfails
    have hother : requestData dev.recorded (Connection.reprofile .ieeeBlock ⟨link, (s, log)⟩) =
        (.error failure, c.reprofile .ieeeBlock) := by
      rw [commutes_requestData, hfails]
    have hblock : block = (.error failure, c.reprofile .ieeeBlock) := readMessage_of_failed hother
    rw [hplain, hblock]
    exact ⟨rfl, fun _ => Iff.rfl, nofun⟩

/-- The link to an instrument that keeps to the standard. -/
def standardLink : Link :=
  fresh ⟨1, 2, none, "mock", 1, []⟩ {} (Scripted.instrumentInterface 0 0 false) ⟨0x02, 0x81, none⟩
    false

/-- An indefinite block in two transfers, the second of which brings a byte more than was announced. -/
def indefiniteTransfers : List (List UInt8) :=
  [(Envelope.mk .dataIn 1 7 true none).bytes ++ Text.bytesOf "#0AB", Text.bytesOf "CD\n\n"]

/-- The block is read as it comes, or without its prefix. -/
theorem readMessage_profiles_indefinite :
    let dev := (ScriptedBus.device 0).recorded
    let plain := readMessage dev ⟨standardLink, (queuedBus indefiniteTransfers, [])⟩
    let block := readMessage dev
      ⟨{ standardLink with profile := .ieeeBlock }, (queuedBus indefiniteTransfers, [])⟩
    plain.1 = .ok (Text.bytesOf "#0ABCD\n") ∧ block.1 = .ok (Text.bytesOf "ABCD\n") ∧
      block.2.device = plain.2.device ∧ block.2.link.tags = plain.2.link.tags := by
  intro dev plain block
  have hbegins : Begins (ScriptedBus.device 0) ⟨standardLink, queuedBus indefiniteTransfers⟩
      ⟨.dataIn, 1, 7, true, none⟩ (Text.bytesOf "#0AB") :=
    ⟨12, _, _, ⟨_, rfl, _, rfl, rfl⟩, rfl, rfl⟩
  have hp : standardLink.profile ≠ .ieeeBlock := by decide
  obtain ⟨hsame, hfails, hmessage⟩ := readMessage_profiles hp (fun e start hb => by
    obtain ⟨rfl, rfl⟩ := hbegins.unique hb
    exact ⟨rfl, by decide, fun block => block.not_announcement_prefix _⟩) []
  have hblock : block.1 = .ok (Text.bytesOf "ABCD\n") := by decide +kernel
  cases hplain : plain.1 with
  | error failure => exact nomatch hblock.symm.trans ((hfails failure).2 hplain)
  | ok message =>
    obtain ⟨e, start, hb, ⟨rest, rfl⟩, hgiven⟩ := hmessage message hplain
    obtain ⟨rfl, rfl⟩ := hbegins.unique hb
    replace hsame : block.2 = ⟨{ plain.2.link with profile := .ieeeBlock }, plain.2.device⟩ := hsame
    have hrest : Text.bytesOf "AB" ++ Text.bytesOf "CD\n" = Text.bytesOf "AB" ++ rest :=
      Except.ok.inj (hblock.symm.trans hgiven)
    obtain rfl := List.append_cancel_left hrest
    exact ⟨rfl, hblock, by rw [hsame], by rw [hsame]⟩

end Link

end Benchtop
