import Benchtop.Proofs.Link.Opening
import Benchtop.Proofs.Link.Writing
import Benchtop.Proofs.Wire.Checked

/-!
# Exchanges with checks

The operations of a link that take bytes apart or cut a message into pieces, written with the steps that
are not always allowed (`Wire.Checked`). An action with such steps is `Guarded`: it ends with a `Fault`
where a step is not allowed, and `Agrees` with an action if it has no such end and does the same. The
bounds are found elsewhere than they are used. That an envelope was read lets the header be split off; that
a link has room for a byte lets a message be cut (`HasRoom`); and the prefix of a block can be split off
since the size of a message is that of the data in which the prefix was found, or is counted from it
(`readBlockChecked_eq`).

Main statements: opening and reading take no step that is not allowed (`establishChecked_eq`,
`readMessageChecked_eq`), and neither do writing and the status byte on a link with room
(`agrees_writeMessage`, `agrees_readStatusByte`).
-/

namespace Benchtop

open Usb Wire

variable {σ α β : Type}

/-! ## Actions that may take a step that is not allowed -/

/-- An action that ends with a fault where it takes a step that is not allowed. -/
abbrev Guarded (σ : Type) := ExceptT (Fault ⊕ Failure) (StateM σ)

namespace Guarded

/-- An action all of whose steps are allowed. -/
def ofAction (action : Action σ α) : Guarded σ α := action.adapt .inr

/-- A value that takes steps to read. -/
def ofChecked (value : Checked α) : Guarded σ α := MonadExcept.ofExcept (value.mapError .inl)

theorem ofAction_bind (x : Action σ α) (f : α → Action σ β) :
    ofAction (x >>= f) = ofAction x >>= fun a => ofAction (f a) := by
  funext s
  simp only [ofAction, adapt_apply, bind_apply]
  rcases x s with ⟨_ | _, _⟩ <;> rfl

theorem ofAction_pure (a : α) : ofAction (pure a : Action σ α) = pure a := rfl

theorem ofAction_get : ofAction (get : Action σ σ) = get := rfl

theorem ofChecked_ok (a : α) : (ofChecked (.ok a) : Guarded σ α) = pure a := rfl

/-- From a state that meets `p`, the one action takes no step that is not allowed and does what the other
does. -/
def Agrees (p : σ → Prop) (x : Guarded σ α) (y : Action σ α) : Prop := ∀ s, p s → x s = ofAction y s

section

variable {p : σ → Prop} {x : Guarded σ α} {y : Action σ α}

theorem agrees_of_eq (h : x = ofAction y) : Agrees p x y := fun s _ => congrFun h s

theorem agrees_ofAction (y : Action σ α) : Agrees p (ofAction y) y := agrees_of_eq rfl

theorem agrees_pure (a : α) : Agrees p (pure a : Guarded σ α) (pure a) := agrees_of_eq rfl

theorem Agrees.bind {q : σ → Prop} {f : α → Guarded σ β} {g : α → Action σ β} (h : Agrees p x y)
    (hpreserves : ∀ s, p s → q (y s).2) (hf : ∀ a, Agrees q (f a) (g a)) :
    Agrees p (x >>= f) (y >>= g) := by
  intro s hs
  have hq := hpreserves s hs
  rw [ofAction_bind, bind_apply, bind_apply, h s hs, ofAction, adapt_apply]
  generalize y s = made at hq ⊢
  rcases made with ⟨e | a, t⟩
  · rfl
  · exact hf a t hq

theorem Agrees.mapM {f : α → Guarded σ β} {g : α → Action σ β} (hf : ∀ a, Agrees p (f a) (g a))
    (hpreserves : ∀ a, Respects (Preserves p) (g a)) (as : List α) :
    Agrees p (as.mapM f) (as.mapM g) := by
  induction as with
  | nil =>
    rw [List.mapM_nil, List.mapM_nil]
    exact agrees_pure []
  | cons a as ih =>
    rw [List.mapM_cons, List.mapM_cons]
    exact (hf a).bind (hpreserves a) fun _ => ih.bind (q := fun _ => True) (fun _ _ => trivial) fun _ =>
      agrees_pure _

end

end Guarded

open Guarded

namespace Link

/-! ## Writing -/

/-- A piece of a message has room for a byte. -/
def HasRoom (c : Connection σ) : Prop := 0 < c.link.maxTransferSize.toNat

/-- The data in pieces of `size` bytes, the last one perhaps shorter; of no data there is none. -/
def chunksOf (size : Nat) (data : List UInt8) : List (List UInt8) :=
  if _ : size = 0 ∨ data = [] then [] else data.take size :: chunksOf size (data.drop size)
termination_by data.length
decreasing_by
  have := List.length_pos_iff.2 fun h => ‹¬ (size = 0 ∨ data = [])› (.inr h)
  simp only [List.length_drop]
  omega

/-- Cuts data into pieces of `size` bytes. -/
def chunks (size : Nat) (data : List UInt8) : Checked (List (List UInt8)) :=
  if size = 0 then .error .emptyPieces else .ok (chunksOf size data)

theorem chunksOf_eq_pieces {size : Nat} {data : List UInt8} (hs : 0 < size) (hd : data ≠ []) :
    chunksOf size data = pieces size data := by
  fun_induction pieces size data with
  | case1 data h =>
    have hle : data.length ≤ size := by omega
    rw [chunksOf, dif_neg (by simp [hd, Nat.ne_of_gt hs]), List.take_of_length_le hle,
      List.drop_of_length_le hle, chunksOf, dif_pos (.inr rfl)]
  | case2 data h ih =>
    have hrest : data.drop size ≠ [] := fun hnil => h (.inr (List.drop_eq_nil_iff.1 hnil))
    rw [chunksOf, dif_neg (by simp [hd, Nat.ne_of_gt hs]), ih hrest]

/-- Writes a message. -/
def writeMessageChecked (dev : Device σ) (data : List UInt8) : Guarded (Connection σ) Unit := do
  let link := (← get).link
  let max := link.maxTransferSize.toNat
  let fragments ← ofChecked
    (if link.profile.splitsMessages && max < data.length then chunks max data else .ok [data])
  let last ← ofChecked (Checked.sub fragments.length 1)
  forM fragments.zipIdx fun fragment => ofAction (sendPiece dev fragment.1 (fragment.2 == last))

/-- Numbered fragments are sent like the pieces of a message: the one with the last number is the last. -/
theorem forM_zipIdx_sendPiece (dev : Device σ) {fragments : List (List UInt8)} {first last : Nat}
    (hlast : last + 1 = first + fragments.length) (hne : fragments ≠ []) :
    (forM (fragments.zipIdx first) fun fragment =>
        ofAction (sendPiece dev fragment.1 (fragment.2 == last))) =
      ofAction (sendPieces dev fragments) := by
  induction fragments generalizing first with
  | nil => exact absurd rfl hne
  | cons fragment fragments ih =>
    cases fragments with
    | nil =>
      obtain rfl : last = first := by simpa using hlast
      simp [sendPieces]
    | cons next fragments =>
      have hneq : (first == last) = false := by
        simp only [List.length_cons] at hlast
        simp
        omega
      have hrest : last + 1 = first + 1 + (next :: fragments).length := by
        simp only [List.length_cons] at hlast ⊢
        omega
      rw [List.zipIdx_cons, List.forM_cons]
      dsimp only
      rw [hneq, ih hrest (List.cons_ne_nil _ _)]
      exact (ofAction_bind _ _).symm

/-- There is room in a piece, and a message makes one piece at least. -/
theorem agrees_writeMessage (dev : Device σ) (data : List UInt8) :
    Agrees HasRoom (writeMessageChecked dev data) (writeMessage dev data) := by
  intro c h
  have hsend (fragments : List (List UInt8)) (hne : fragments ≠ []) :
      (do
        let last ← ofChecked (Checked.sub fragments.length 1)
        forM fragments.zipIdx fun fragment =>
          ofAction (sendPiece dev fragment.1 (fragment.2 == last))) =
        ofAction (sendPieces dev fragments) := by
    have hpos := List.length_pos_iff.2 hne
    rw [Checked.sub_of_le hpos, ofChecked_ok, pure_bind]
    exact forM_zipIdx_sendPiece dev (by omega) hne
  have hfragments : (if c.link.profile.splitsMessages && c.link.maxTransferSize.toNat < data.length then
      chunks c.link.maxTransferSize.toNat data else .ok [data]) =
        .ok (if c.link.profile.splitsMessages then pieces c.link.maxTransferSize.toNat data
          else [data]) := by
    cases c.link.profile.splitsMessages with
    | false => rfl
    | true =>
      by_cases hlt : c.link.maxTransferSize.toNat < data.length
      · have hne : data ≠ [] := List.ne_nil_of_length_pos (Nat.zero_lt_of_lt hlt)
        simp [hlt, chunks, Nat.ne_of_gt h, chunksOf_eq_pieces h hne]
      · rw [if_neg (by simp [hlt]), if_pos rfl, pieces, dif_pos (.inr (Nat.not_lt.1 hlt))]
  rw [writeMessageChecked, writeMessage, ofAction_bind, ofAction_get, get_bind_apply, get_bind_apply]
  dsimp only
  rw [hfragments, ofChecked_ok, pure_bind, hsend]
  split
  · exact (cut_pieces h data).ne_nil
  · exact List.cons_ne_nil _ _

/-! ## Reading -/

/-- Asks for data and reads the first transfer of the answer. The length that is asked for is left out of the
checks: it is the limit of the link with 15 bytes more (`receive`), so it depends on the settings and on
nothing that a device sends. -/
def requestDataChecked (dev : Device σ) : Guarded (Connection σ) FirstTransfer := do
  let tag ← ofAction nextTag
  let link := (← get).link
  let termChar := if link.capabilities.termChar then link.termChar else none
  ofAction (send dev tag (Envelope.request tag link.maxTransferSize termChar).bytes)
  let bytes ← ofAction (receive dev tag)
  match ← ofChecked (Envelope.parseChecked bytes .dataIn) with
  | .error e => throw (.inr (.badEnvelope e))
  | .ok envelope =>
    if envelope.tag ≠ tag then throw (.inr (.tagMismatch tag envelope.tag))
    return ⟨envelope, ← ofChecked (Checked.splitOff bytes headerSize), tag⟩

theorem requestDataChecked_eq (dev : Device σ) : requestDataChecked dev = ofAction (requestData dev) := by
  simp only [requestDataChecked, requestData, ofAction_bind, ofAction_get, Envelope.parseChecked_eq,
    ofChecked_ok, pure_bind]
  refine bind_congr fun tag => bind_congr fun c => bind_congr fun _ => bind_congr fun bytes => ?_
  cases h : Envelope.parse bytes .dataIn with
  | error e => rfl
  | ok envelope =>
    rw [Checked.splitOff_of_le (Envelope.headerSize_le_of_parse h)]
    dsimp only
    split <;> rfl

/-- Reads the data of one envelope, and whether it is the last of its message. -/
def readEnvelopeChecked (dev : Device σ) : Guarded (Connection σ) (List UInt8 × Bool) := do
  let first ← requestDataChecked dev
  let size := first.envelope.size.toNat
  let data ← ofAction (readAll dev first.tag size first.body)
  return (data.take size, first.envelope.endOfMessage)

theorem readEnvelopeChecked_eq (dev : Device σ) : readEnvelopeChecked dev = ofAction (readEnvelope dev) := by
  simp only [readEnvelopeChecked, readEnvelope, requestDataChecked_eq, ofAction_bind, ofAction_pure]

end Link

open Link in
/-- Reads the rest of a message of which `message` has been read. -/
def Connection.readEnvelopesChecked? (dev : Device σ) (message : List UInt8) (c : Connection σ) :
    Option (Except (Fault ⊕ Failure) (List UInt8) × Connection σ) :=
  match readEnvelopeChecked dev c with
  | (.error e, c) => some (.error e, c)
  | (.ok (data, true), c) => some (.ok (message ++ data), c)
  | (.ok (data, false), c) => c |>.readEnvelopesChecked? dev (message ++ data)
partial_fixpoint

namespace Link

/-- Neither reading stops before the other does. -/
theorem readEnvelopesChecked?_eq (dev : Device σ) (message : List UInt8) (c : Connection σ) :
    c.readEnvelopesChecked? dev message =
      (c.readEnvelopes? dev message).map fun read => (read.1.mapError .inr, read.2) := by
  have hchecked (c : Connection σ) :
      readEnvelopeChecked dev c = ((readEnvelope dev c).1.mapError .inr, (readEnvelope dev c).2) := by
    rw [readEnvelopeChecked_eq, ofAction, adapt_apply]
  have hread : ∀ message (c : Connection σ) outcome, c.readEnvelopes? dev message = some outcome →
      c.readEnvelopesChecked? dev message = some (outcome.1.mapError .inr, outcome.2) := by
    refine Connection.readEnvelopes?.partial_correctness dev _ fun rest ih message c outcome h => ?_
    rw [Connection.readEnvelopesChecked?, hchecked]
    generalize readEnvelope dev c = answered at h ⊢
    rcases answered with ⟨e | ⟨data, isLast⟩, c'⟩
    · cases h
      rfl
    · cases isLast with
      | false => exact ih _ _ _ h
      | true =>
        cases h
        rfl
  have hends : ∀ message (c : Connection σ) outcome,
      c.readEnvelopesChecked? dev message = some outcome → (c.readEnvelopes? dev message).isSome := by
    refine Connection.readEnvelopesChecked?.partial_correctness dev _
      fun rest ih message c outcome h => ?_
    rw [hchecked] at h
    rw [Connection.readEnvelopes?]
    generalize readEnvelope dev c = answered at h ⊢
    rcases answered with ⟨e | ⟨data, isLast⟩, c'⟩
    · rfl
    · cases isLast with
      | false => exact ih _ _ _ h
      | true => rfl
  cases hr : c.readEnvelopes? dev message with
  | some outcome => exact hread message c outcome hr
  | none =>
    cases hc : c.readEnvelopesChecked? dev message with
    | none => rfl
    | some outcome =>
      have := hends message c outcome hc
      rw [hr] at this
      cases this

/-- Reads on to the end of a message of the block profile that begins with `data`. -/
def readBlockChecked (width : Nat) (dev : Device σ) (tag : UInt8) (data : List UInt8) (size : Nat) :
    Guarded (Connection σ) (List UInt8) := do
  match ← ofChecked (BlockHeader.parseChecked width data) with
  | none => return (← ofAction (readAll dev tag size data)).take size
  | some block =>
    let total ← if block.indefinite then pure size
      else ofChecked (Checked.add width block.prefixSize block.length)
    let data ← ofAction (readAll dev tag total data)
    ofChecked (Checked.splitOff (data.take total) block.prefixSize)

/-- What has been read on is all that is needed. -/
theorem le_length_of_readAll {dev : Device σ} {tag : UInt8} {need : Nat} {data read : List UInt8}
    {c c' : Connection σ} (h : readAll dev tag need data c = (.ok read, c')) : need ≤ read.length := by
  fun_induction readAll dev tag need data generalizing c with
  | case1 data hle =>
    cases h
    exact hle
  | case2 data hlt ih =>
    obtain ⟨more, c₁, -, h⟩ := exists_of_bind_eq_ok h
    split at h
    · cases h
    · next hne => exact ih more hne h

theorem readBlockChecked_eq {width : Nat} (hw : 32 ≤ width) (dev : Device σ) (tag : UInt8)
    {data : List UInt8} {size : Nat} (h : data.length ≤ size) :
    readBlockChecked width dev tag data size = ofAction (readBlock dev tag data size) := by
  rw [readBlockChecked, readBlock, BlockHeader.parseChecked_eq hw, ofChecked_ok, pure_bind]
  cases hparse : BlockHeader.parse? data with
  | none => simp only [ofAction_bind, ofAction_pure]
  | some block =>
    have hprefix := BlockHeader.prefixSize_le_of_parse? hparse
    have hsum : block.prefixSize + block.length < 2 ^ width :=
      Nat.lt_of_lt_of_le (BlockHeader.prefixSize_add_length_lt hparse)
        (Nat.pow_le_pow_right (by decide) hw)
    -- What is read ends behind the prefix: the size is that of the data that the prefix was found in.
    have hcut (total : Nat) (hle : block.prefixSize ≤ total) :
        (do
          let data ← ofAction (readAll dev tag total data)
          ofChecked (Checked.splitOff (data.take total) block.prefixSize)) =
          ofAction (do return ((← readAll dev tag total data).take total).drop block.prefixSize) := by
      funext c
      rw [ofAction_bind, bind_apply, bind_apply, ofAction, adapt_apply]
      rcases hr : readAll dev tag total data c with ⟨e | read, c'⟩
      · rfl
      · have hread := le_length_of_readAll hr
        have hlength : block.prefixSize ≤ (read.take total).length := by
          rw [List.length_take]
          omega
        dsimp only [mapError_ok]
        rw [Checked.splitOff_of_le hlength]
        rfl
    dsimp only
    cases block.indefinite with
    | true => exact hcut size (Nat.le_trans hprefix h)
    | false =>
      simp only [Bool.false_eq_true, if_false, Checked.add_of_lt hsum, ofChecked_ok, pure_bind]
      exact hcut _ (Nat.le_add_right _ _)

/-- Reads a message of the block profile. -/
def readBlockMessageChecked (width : Nat) (dev : Device σ) : Guarded (Connection σ) (List UInt8) := do
  let first ← requestDataChecked dev
  let size := first.envelope.size.toNat
  let body := first.body.take size
  if ← ofChecked (isPendingMarkerChecked width body) then
    let data ← ofAction (receive dev first.tag)
    readBlockChecked width dev first.tag data data.length
  else readBlockChecked width dev first.tag body size

theorem readBlockMessageChecked_eq {width : Nat} (hw : 32 ≤ width) (dev : Device σ) :
    readBlockMessageChecked width dev = ofAction (readBlockMessage dev) := by
  simp only [readBlockMessageChecked, readBlockMessage, requestDataChecked_eq, ofAction_bind,
    isPendingMarkerChecked_eq hw, ofChecked_ok, pure_bind]
  refine bind_congr fun first => ?_
  split
  · rw [ofAction_bind]
    exact bind_congr fun data => readBlockChecked_eq hw dev _ (Nat.le_refl _)
  · exact readBlockChecked_eq hw dev _ (List.length_take_le _ _)

/-- Reads a message. -/
def readMessageChecked (width : Nat) (dev : Device σ) : Guarded (Connection σ) (List UInt8) := fun c =>
  if c.link.profile.readsBlocks then readBlockMessageChecked width dev c
  else (c.readEnvelopesChecked? dev []).getD (.error (.inr .oversupplied), c)

theorem readMessageChecked_eq {width : Nat} (hw : 32 ≤ width) (dev : Device σ) :
    readMessageChecked width dev = ofAction (readMessage dev) := by
  funext c
  rw [readMessageChecked, readBlockMessageChecked_eq hw, readEnvelopesChecked?_eq, ofAction, ofAction,
    adapt_apply, adapt_apply, readMessage]
  split
  · rfl
  · cases c.readEnvelopes? dev [] <;> rfl

/-! ## Status byte and trigger -/

/-- Reads the status byte by the query `*STB?`. -/
def queryStatusByteChecked (width : Nat) (dev : Device σ) : Guarded (Connection σ) UInt8 := do
  writeMessageChecked dev (Text.bytesOf "*STB?")
  let text := Text.responseText (← readMessageChecked width dev)
  match Text.readUnsigned 10 255 (Text.trim text) with
  | some n => return UInt8.ofNat n
  | none => throw (.inr (.badAnswer (.noStatusByte (String.ofList text))))

/-- The status byte in the notification of the request `tag`. -/
def ofNotificationChecked (tag : UInt8) (notification : List UInt8) : Checked (Except Failure UInt8) := do
  if notification.length < 2 then
    return .error (.badAnswer (.tooShort "interrupt notification" 2))
  let echo ← Checked.byteAt notification 0
  if echo ≠ 0x80 ||| tag then return .error (.tagMismatch (0x80 ||| tag) echo)
  return .ok (← Checked.byteAt notification 1)

/-- Requests the status byte. The answer may have fewer bytes than it is looked at for. -/
def requestStatusByteChecked (dev : Device σ) (endpoint : Option UInt8) :
    Guarded (Connection σ) UInt8 := do
  let tag ← ofAction nextStatusTag
  let link := (← get).link
  let name := Request.readStatusByte.name
  let setup := Setup.toInterface Request.readStatusByte.code tag.toUInt16 link.interface
  let answer ← ofAction (call dev (.controlIn setup 3 link.timing.timeout))
  let status ← ofAction (MonadExcept.ofExcept (statusOf name answer))
  if status ≠ .success then throw (.inr (.statusReadFailed status.code))
  match answer[1]? with
  | none => throw (.inr (.badAnswer (.tooShort name 2)))
  | some echo =>
    if echo ≠ tag then throw (.inr (.tagMismatch tag echo))
    match endpoint with
    | some endpoint =>
      let notification ← ofAction (call dev (.interruptIn endpoint 2 link.timing.timeout))
      ofAction (MonadExcept.ofExcept (← ofChecked (ofNotificationChecked tag notification)))
    | none =>
      match answer[2]? with
      | none => throw (.inr (.badAnswer (.tooShort name 3)))
      | some status => return status

/-- Reads the status byte. -/
def readStatusByteChecked (width : Nat) (dev : Device σ) : Guarded (Connection σ) UInt8 := do
  match (← get).link.statusMode with
  | .basic => queryStatusByteChecked width dev
  | .interrupt endpoint => requestStatusByteChecked dev (some endpoint)
  | .control => requestStatusByteChecked dev none

/-- Triggers the instrument. -/
def triggerChecked (dev : Device σ) : Guarded (Connection σ) Unit := do
  let link := (← get).link
  if link.capabilities.isExtended && link.capabilities.trigger then
    let tag ← ofAction nextTag
    ofAction (send dev tag (Envelope.mk .trigger tag 0 false none).bytes)
  else
    writeMessageChecked dev (Text.bytesOf "*TRG")

theorem agrees_queryStatusByte {width : Nat} (hw : 32 ≤ width) (dev : Device σ) :
    Agrees HasRoom (queryStatusByteChecked width dev) (queryStatusByte dev) := by
  refine (agrees_writeMessage dev _).bind (q := fun _ => True) (fun _ _ => trivial) fun _ =>
    agrees_of_eq ?_
  rw [readMessageChecked_eq hw, ofAction_bind]
  refine bind_congr fun data => ?_
  dsimp only
  cases Text.readUnsigned 10 255 (Text.trim (Text.responseText data)) <;> rfl

theorem ofNotificationChecked_eq (tag : UInt8) (notification : List UInt8) :
    ofNotificationChecked tag notification = .ok (ofNotification tag notification) := by
  match notification with
  | [] => rfl
  | [_] => rfl
  | echo :: status :: rest =>
    by_cases h : echo = 0x80 ||| tag
    · simp [ofNotificationChecked, ofNotification, Checked.byteAt, h, pure, Except.pure]
    · simp [ofNotificationChecked, ofNotification, Checked.byteAt, h, pure, Except.pure]

theorem requestStatusByteChecked_eq (dev : Device σ) (endpoint : Option UInt8) :
    requestStatusByteChecked dev endpoint = ofAction (requestStatusByte dev endpoint) := by
  simp only [requestStatusByteChecked, requestStatusByte, ofAction_bind, ofAction_get]
  refine bind_congr fun tag => bind_congr fun c => bind_congr fun answer => bind_congr fun status => ?_
  by_cases hstatus : status = .success
  · simp only [hstatus, ne_eq, not_true_eq_false, if_false]
    match answer with
    | [] => rfl
    | [_] => rfl
    | _ :: echo :: rest =>
      by_cases hecho : echo = tag
      · simp only [List.getElem?_cons_succ, List.getElem?_cons_zero, List.drop_succ_cons, List.drop_zero,
          hecho, not_true_eq_false, if_false]
        cases endpoint with
        | some endpoint =>
          simp only [ofAction_bind, ofNotificationChecked_eq, ofChecked_ok, pure_bind]
        | none => cases rest <;> rfl
      · simp only [List.getElem?_cons_succ, List.getElem?_cons_zero, List.drop_succ_cons, List.drop_zero]
        rw [if_pos hecho, if_pos hecho]
        rfl
  · rw [if_pos hstatus, if_pos hstatus]
    rfl

theorem agrees_readStatusByte {width : Nat} (hw : 32 ≤ width) (dev : Device σ) :
    Agrees HasRoom (readStatusByteChecked width dev) (readStatusByte dev) := by
  intro c h
  rw [readStatusByteChecked, readStatusByte, ofAction_bind, ofAction_get, get_bind_apply, get_bind_apply]
  cases c.link.statusMode with
  | basic => exact agrees_queryStatusByte hw dev c h
  | interrupt endpoint => exact congrFun (requestStatusByteChecked_eq dev (some endpoint)) c
  | control => exact congrFun (requestStatusByteChecked_eq dev none) c

theorem agrees_trigger (dev : Device σ) : Agrees HasRoom (triggerChecked dev) (trigger dev) := by
  intro c h
  rw [triggerChecked, trigger, ofAction_bind, ofAction_get, get_bind_apply, get_bind_apply]
  dsimp only
  split
  · rw [ofAction_bind]
  · exact agrees_writeMessage dev _ c h

/-! ## Opening -/

/-- Asks for the capabilities, and takes remote control where there is such a thing. -/
def negotiateChecked (dev : Device σ) (usb488 lockout : Bool) : Guarded (Connection σ) Unit := do
  let answer ← ofAction (call dev (← get).link.capabilitiesCall)
  match ← ofChecked (Capabilities.parseChecked answer usb488) with
  | .error e => throw (.inr (.ofCapabilityError e))
  | .ok capabilities =>
    modify fun c => { c with link := c.link.learned capabilities }
    ofAction (takeRemote dev lockout)

/-- Negotiates a link whose interface has been claimed, and hands everything back if that fails. -/
def settleChecked (dev : Device σ) (link : Link) (usb488 lockout : Bool) : Guarded σ Link := fun s =>
  match negotiateChecked dev usb488 lockout ⟨link, s⟩ with
  | (.ok (), c) => (.ok c.link, c.device)
  | (.error (.inl fault), c) => (.error (.inl fault), c.device)
  | (.error (.inr e), c) => (.error (.inr e), (handBack dev c).2.device)

/-- Makes a link of an opened device. -/
def establishChecked (dev : Device σ) (info : DeviceInfo) (settings : Settings) : Guarded σ Link := do
  let configuration ← ofAction (chooseConfiguration dev settings.forceReconfigure)
  let interface ← ofAction (MonadExcept.ofExcept (chooseInterface info configuration))
  let endpoints ← ofAction (MonadExcept.ofExcept (findEndpoints interface))
  let driverDetached ← ofAction (dev.call (.detachDriver interface.number))
  ofAction (claim dev interface driverDetached)
  settleChecked dev (fresh info settings interface endpoints driverDetached)
    (interface.protocol == usb488Protocol) settings.localLockout

theorem negotiateChecked_eq (dev : Device σ) (usb488 lockout : Bool) :
    negotiateChecked dev usb488 lockout = ofAction (negotiate dev usb488 lockout) := by
  funext c
  rw [ofAction, adapt_apply, negotiate_apply, negotiateChecked, get_bind_apply, bind_apply, ofAction,
    adapt_apply, call]
  rcases attempt dev c.link.capabilitiesCall c with ⟨e | bytes, c'⟩
  · rfl
  · dsimp only [mapError_ok]
    rw [Capabilities.parseChecked_eq bytes, ofChecked_ok, pure_bind]
    cases Capabilities.parse bytes usb488 <;> rfl

theorem settleChecked_eq (dev : Device σ) (link : Link) (usb488 lockout : Bool) :
    settleChecked dev link usb488 lockout = ofAction (settle dev link usb488 lockout) := by
  funext s
  rw [settleChecked, negotiateChecked_eq, ofAction, ofAction, adapt_apply, adapt_apply, settle_apply]
  rcases negotiate dev usb488 lockout ⟨link, s⟩ with ⟨e | _, c⟩ <;> rfl

theorem establishChecked_eq (dev : Device σ) (info : DeviceInfo) (settings : Settings) :
    establishChecked dev info settings = ofAction (establish dev info settings) := by
  simp only [establishChecked, establish, ofAction_bind, settleChecked_eq]

end Link

end Benchtop
