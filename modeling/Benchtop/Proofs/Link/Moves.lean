import Benchtop.Link.Opening
import Benchtop.Proofs.Link.Recovery
import Benchtop.Proofs.Link.Request
import Benchtop.Proofs.Link.Transfer
import Benchtop.Proofs.Wire.Tag

/-!
# What an operation of an open instrument may do

An operation of an open instrument calls the device for control requests, for transfers and to
clear a halt, draws tags, and notes whether the instrument is under remote control or locked. Which
calls these are is fixed by the link and by the requests that the operation is made for: `AsksFor`
lists them, each under the condition on which it is made, and a request that not every instrument takes
is made only of one that takes it (`Takes`).

What a link notes of a call depends on the call and its answer alone (`Notes`). A bulk tag is drawn for a
bulk OUT transfer and for nothing else, and no such transfer is made without; so it is with the tags of
status byte requests. Remote control and the lock are noted when they are switched, by operations that
are made for that, and of no other call anything is noted. An operation does nothing else (`StepFor`),
`MovesFor` chains such steps, and every operation of a link respects `MovesFor` (`moves_writeMessage`,
`moves_readMessage`, `moves_clear` and so on), succeed or fail. `Asks` and `Moves` are the same for
operations that may be made for any request.

An operation reads the link and makes its calls later. That the calls fit the link as it is then is
what `MovesFrom` is for: it relates states of one opening only, in which all that calls depend on is
the same.

What no step does, no operation does. `MovesFor.sameOpening` draws a first conclusion: all that was
found and chosen when the instrument was opened stays as it is. `MovesFor.exists_trace` draws a second:
the device has been asked nothing but what the link asks. `MovesFor.exists_notes` draws a third: what
the link has noted is what the calls and their answers say.
-/

namespace Benchtop

open Usb Wire

variable {σ : Type} {dev : Device σ}

/-- The calls that leave the configuration, the claim of an interface and the operating system's
driver alone. -/
def Usb.Call.isTraffic : Call → Bool
  | .controlIn .. => true
  | .bulkOut .. => true
  | .bulkIn .. => true
  | .interruptIn .. => true
  | .clearHalt .. => true
  | _ => false

/-- Requests under this code are not noted. -/
def isPlainCode (code : UInt8) : Bool :=
  code != Request.readStatusByte.code && code != Request.remoteEnable.code

/-- Traffic that nothing is noted of: all but bulk OUT transfers, requests for the status byte, and
those that switch remote control or the lock. -/
def Usb.Call.isPlain : Call → Bool
  | .bulkOut .. => false
  | .controlIn setup _ _ => isPlainCode setup.request
  | call => call.isTraffic

namespace Link

/-! ## What a link asks -/

/-- The instrument takes the request: every instrument does, or this one has said so, or it is one of
those with a front panel lock. -/
def Takes (link : Link) : Request → Prop
  | .indicatorPulse => link.capabilities.pulse
  | .readStatusByte => link.capabilities.isExtended ∧ link.capabilities.ieee4882
  | .remoteEnable | .goToLocal | .localLockout => link.capabilities.remoteLocal
  | .frontPanelLock | .diagnosticId => link.profile.isLockable
  | _ => True

/-- The bytes of a bulk OUT transfer with the tag. -/
inductive Sends (link : Link) (tag : UInt8) : List UInt8 → Prop
  /-- A piece of a message. -/
  | piece (piece : List UInt8) (isLast : Bool) :
    Sends link tag ((Envelope.mk .dataOut tag (UInt32.ofNat piece.length) isLast none).frame piece)
  /-- A request for data. A termination character is set if the device takes one. -/
  | request :
    Sends link tag (Envelope.request tag link.maxTransferSize
      (if link.capabilities.termChar then link.termChar else none)).bytes
  | trigger (h : link.capabilities.isExtended ∧ link.capabilities.trigger) :
    Sends link tag (Envelope.mk .trigger tag 0 false none).bytes

/-- The calls that are made of the device of a link by an operation that is made for these requests. -/
inductive AsksFor (link : Link) (wants : Request → Prop) : Call → Prop
  /-- What the device says of itself, which is asked for when it is opened. -/
  | capabilities :
    AsksFor link wants (.controlIn (.toInterface Request.getCapabilities.code 0 link.interface) 24
      link.timing.timeout)
  /-- A request to the interface that is answered by a status. -/
  | request {r : Request} {value : UInt16} (h : link.Takes r) (hwants : wants r) :
    AsksFor link wants (.controlIn (.toInterface r.code value link.interface) 1 link.timing.timeout)
  /-- A request for the status byte. -/
  | statusByte {tag : UInt8} (h : link.statusMode.isExtended) :
    AsksFor link wants (.controlIn
      (.toInterface Request.readStatusByte.code tag.toUInt16 link.interface) 3 link.timing.timeout)
  /-- The status byte on the interrupt endpoint. -/
  | notification {endpoint : UInt8} (h : link.statusMode = .interrupt endpoint) :
    AsksFor link wants (.interruptIn endpoint 2 link.timing.timeout)
  | diagnosticId (h : link.profile.isLockable) :
    AsksFor link wants (.controlIn (.vendor Request.diagnosticId.code 0 link.interface.toUInt16) 1
      link.timing.timeout)
  | initiateClear :
    AsksFor link wants (.controlIn (.toInterface Request.initiateClear.code 0 link.interface) 1
      link.timing.abortTimeout)
  | checkClear :
    AsksFor link wants (.controlIn (.toInterface Request.checkClear.code 0 link.interface) 2
      link.timing.abortTimeout)
  | initiateAbort (direction : Direction) {tag : UInt8} :
    AsksFor link wants (.controlIn (.toEndpoint (initiateAbort direction).code tag.toUInt16
      (link.bulkEndpoint direction)) 2 link.timing.abortTimeout)
  | checkAbort (direction : Direction) :
    AsksFor link wants (.controlIn
      (.toEndpoint (checkAbort direction).code 0 (link.bulkEndpoint direction)) 8
      link.timing.abortTimeout)
  | transfer {tag : UInt8} {bytes : List UInt8} (h : link.Sends tag bytes) :
    AsksFor link wants (.bulkOut link.endpoints.bulkOut bytes link.timing.timeout)
  | receive :
    AsksFor link wants (.bulkIn link.endpoints.bulkIn (link.maxTransferSize.toNat + headerSize + 3)
      link.timing.timeout)
  | drain :
    AsksFor link wants (.bulkIn link.endpoints.bulkIn (link.maxTransferSize.toNat + headerSize)
      link.timing.abortTimeout)
  | clearHalt : AsksFor link wants (.clearHalt link.endpoints.bulkOut)

/-- The calls that are made of the device of a link. -/
abbrev Asks (link : Link) : Call → Prop := link.AsksFor fun _ => True

variable {wants : Request → Prop}

theorem Sends.bears {link : Link} {tag : UInt8} {bytes : List UInt8} (h : link.Sends tag bytes) :
    Bears tag bytes := by
  cases h with
  | piece => exact Envelope.bears_frame _ _
  | request => exact Envelope.bears_bytes _
  | trigger => exact Envelope.bears_bytes _

theorem AsksFor.isTraffic {link : Link} {call : Call} (h : link.AsksFor wants call) :
    call.isTraffic := by
  cases h <;> rfl

theorem AsksFor.mono {wants' : Request → Prop} (hw : ∀ r, wants r → wants' r) {link : Link}
    {call : Call} (h : link.AsksFor wants call) : link.AsksFor wants' call := by
  cases h with
  | request h hwants => exact .request h (hw _ hwants)
  | _ => constructor <;> assumption

/-- The request `tag` for the status byte. -/
def statusCall (link : Link) (tag : UInt8) : Call :=
  .controlIn (.toInterface Request.readStatusByte.code tag.toUInt16 link.interface) 3
    link.timing.timeout

/-! ## Steps -/

/-- What a link makes of a call and its answer. The call is one that it asks by an operation that is made
for these requests, and what it notes is the second link. -/
inductive Notes (link : Link) (wants : Request → Prop) : Event → Link → Prop
  | call {call : Call} (h : call.isPlain) (hasks : link.AsksFor wants call)
    (answer : Except BusError call.Answer) : Notes link wants ⟨call, answer⟩ link
  /-- A bulk OUT transfer with the next tag. -/
  | transfer {bytes : List UInt8} (h : link.Sends link.tags.next.current bytes)
    (answer : Except BusError Nat) :
    Notes link wants ⟨.bulkOut link.endpoints.bulkOut bytes link.timing.timeout, answer⟩
      { link with tags := link.tags.next }
  /-- A request for the status byte with the next tag of such requests. -/
  | statusByte (h : link.statusMode.isExtended) (hwants : wants .readStatusByte)
    (answer : Except BusError (List UInt8)) :
    Notes link wants ⟨link.statusCall link.statusTags.next.current, answer⟩
      { link with statusTags := link.statusTags.next }
  /-- Remote control is noted if that is acknowledged. -/
  | remote (on : Bool) (h : link.Takes .remoteEnable) (hwants : wants .remoteEnable)
    (answer : Except BusError (List UInt8)) :
    Notes link wants ⟨link.requestCall .remoteEnable (switchValue on), answer⟩
      { link with
        remote :=
          if (Event.mk (link.requestCall .remoteEnable (switchValue on)) answer).isAcknowledged then on
          else link.remote }
  /-- The lock is noted if there is an answer. -/
  | locked (on : Bool) (h : link.Takes .frontPanelLock) (hwants : wants .frontPanelLock)
    (answer : Except BusError (List UInt8)) :
    Notes link wants ⟨link.requestCall .frontPanelLock (switchValue on), answer⟩
      { link with locked := if answer.isOk then on else link.locked }

/-- What a link makes of calls and answers, one after the other. -/
inductive NotesAll (wants : Request → Prop) (link : Link) : List Event → Link → Prop
  | nil : NotesAll wants link [] link
  | concat {events : List Event} {link' link'' : Link} {e : Event} (h : NotesAll wants link events link')
    (hn : link'.Notes wants e link'') : NotesAll wants link (events ++ [e]) link''

/-- One step of an operation of an open instrument, which is made for these requests. -/
inductive StepFor (dev : Device σ) (wants : Request → Prop) : Connection σ → Connection σ → Prop
  | note {c : Connection σ} {call : Call} {link : Link}
    (h : c.link.Notes wants ⟨call, (dev.perform call c.device).1⟩ link) :
    StepFor dev wants c ⟨link, (dev.perform call c.device).2⟩
  /-- When the instrument is handed back, which may take any request, it is noted that it is neither
  under remote control nor locked, whatever it has answered. -/
  | forget (c : Connection σ) (remote locked : Bool) (h : ∀ r, wants r) :
    StepFor dev wants c { c with link.remote := remote, link.locked := locked }

/-- Steps of operations of an open instrument, one after the other. -/
abbrev MovesFor (dev : Device σ) (wants : Request → Prop) : Connection σ → Connection σ → Prop :=
  Relation.ReflTransGen (StepFor dev wants)

/-- Steps of operations that are made for any requests. -/
abbrev Moves (dev : Device σ) : Connection σ → Connection σ → Prop := MovesFor dev fun _ => True

/-- Two links of one opening. They may differ in the tags, and in what is noted of remote control
and of the lock. -/
def SameOpening (a b : Link) : Prop :=
  b = { a with tags := b.tags, statusTags := b.statusTags, remote := b.remote, locked := b.locked }

namespace SameOpening

variable {a b d : Link}

theorem symm (h : a.SameOpening b) : b.SameOpening a := by
  unfold SameOpening at *
  rw [h]

theorem trans (h : a.SameOpening b) (h' : b.SameOpening d) : a.SameOpening d := by
  unfold SameOpening at h h' ⊢
  rw [h', h]

theorem sends (h : a.SameOpening b) {tag : UInt8} {bytes : List UInt8} (hs : a.Sends tag bytes) :
    b.Sends tag bytes := by
  rw [h]
  cases hs with
  | piece piece isLast => exact .piece piece isLast
  | request => exact .request
  | trigger hknown => exact .trigger hknown

/-- Links of one opening ask the same. -/
theorem asks (h : a.SameOpening b) {call : Call} (hasks : a.AsksFor wants call) :
    b.AsksFor wants call := by
  cases hasks with
  | transfer hs =>
    have hs := h.sends hs
    rw [h] at hs ⊢
    exact .transfer hs
  | _ => rw [h]; constructor <;> assumption

end SameOpening

/-- What a link asks, it asks after a note as well. -/
theorem Notes.sameOpening {link link' : Link} {e : Event} (h : link.Notes wants e link') :
    link.SameOpening link' := by
  cases h <;> rfl

theorem Notes.asks {link link' : Link} {e : Event} (h : link.Notes wants e link') :
    link.AsksFor wants e.call := by
  cases h with
  | call _ hasks => exact hasks
  | transfer hs => exact .transfer hs
  | statusByte hmode => exact .statusByte hmode
  | remote on h hwants => exact .request h hwants
  | locked on h hwants => exact .request h hwants

theorem Notes.mono {wants' : Request → Prop} (hw : ∀ r, wants r → wants' r) {link link' : Link}
    {e : Event} (h : link.Notes wants e link') : link.Notes wants' e link' := by
  cases h with
  | call hplain hasks answer => exact .call hplain (hasks.mono hw) answer
  | transfer hs answer => exact .transfer hs answer
  | statusByte hmode hwants answer => exact .statusByte hmode (hw _ hwants) answer
  | remote on h hwants answer => exact .remote on h (hw _ hwants) answer
  | locked on h hwants answer => exact .locked on h (hw _ hwants) answer

theorem NotesAll.sameOpening {link link' : Link} {events : List Event}
    (h : NotesAll wants link events link') : link.SameOpening link' := by
  induction h with
  | nil => rfl
  | concat _ hn ih => exact ih.trans hn.sameOpening

theorem MovesFor.sameOpening {c c' : Connection σ} (h : MovesFor dev wants c c') :
    c.link.SameOpening c'.link := by
  induction h with
  | refl => rfl
  | tail _ hstep ih =>
    cases hstep with
    | note hn => exact ih.trans hn.sameOpening
    | forget => exact ih.trans rfl

/-- An operation may be made for more requests than it makes. -/
theorem MovesFor.mono {wants' : Request → Prop} (hw : ∀ r, wants r → wants' r) {c c' : Connection σ}
    (h : MovesFor dev wants c c') : MovesFor dev wants' c c' := by
  refine Relation.ReflTransGen.mono (fun c c' hstep => ?_) _ _ h
  cases hstep with
  | note hn => exact .note (hn.mono hw)
  | forget remote locked hall => exact .forget c remote locked fun r => hw r (hall r)

theorem MovesFor.moves {c c' : Connection σ} (h : MovesFor dev wants c c') : Moves dev c c' :=
  h.mono fun _ _ => trivial

/-- Moves ask the device nothing but what the link asks. -/
theorem MovesFor.exists_trace {c c' : Connection σ} (h : MovesFor dev wants c c') :
    ∃ events, dev.Trace c.device events c'.device ∧ ∀ e ∈ events, c.link.AsksFor wants e.call := by
  induction h with
  | refl => exact ⟨[], rfl, nofun⟩
  | @tail d _ hm hstep ih =>
    obtain ⟨events, ht, hasks⟩ := ih
    cases hstep with
    | note hn =>
      refine ⟨_, ht.append (dev.trace_perform _ d.device), fun asked he => ?_⟩
      rcases List.mem_append.1 he with he | he
      · exact hasks asked he
      · obtain rfl := List.mem_singleton.1 he
        exact (MovesFor.sameOpening hm).symm.asks hn.asks
    | forget => exact ⟨events, ht, hasks⟩

/-- The link has noted what these calls and their answers say. This is for operations, which do not hand
the instrument back. -/
theorem MovesFor.exists_notes {c c' : Connection σ} (h : MovesFor dev wants c c')
    (hall : ¬ ∀ r, wants r) :
    ∃ events, dev.Trace c.device events c'.device ∧ NotesAll wants c.link events c'.link := by
  induction h with
  | refl => exact ⟨[], rfl, .nil⟩
  | @tail d _ _ hstep ih =>
    obtain ⟨events, ht, hnotes⟩ := ih
    cases hstep with
    | note hn => exact ⟨_, ht.append (dev.trace_perform _ d.device), hnotes.concat hn⟩
    | forget _ _ h => exact absurd h hall

/-! ## Moves from a state of an opening -/

variable {link : Link}

/-- Moves, where they start in a state of the opening of `link`. -/
def MovesFrom (dev : Device σ) (wants : Request → Prop) (link : Link) (c c' : Connection σ) : Prop :=
  link.SameOpening c.link → MovesFor dev wants c c'

instance : Std.Refl (MovesFrom dev wants link) where
  refl _ _ := .refl

instance : IsTrans (Connection σ) (MovesFrom dev wants link) where
  trans _ _ _ h h' hc := (h hc).trans (h' (hc.trans (h hc).sameOpening))

/-- What makes moves from the states of every opening makes moves. -/
theorem respects_movesFor {α : Type} {action : Connection σ → α × Connection σ}
    (h : ∀ link, Respects (MovesFrom dev wants link) action) :
    Respects (MovesFor dev wants) action :=
  fun c => h c.link c rfl

theorem respects_moves {α : Type} {action : Connection σ → α × Connection σ}
    (h : ∀ link, Respects (MovesFrom dev (fun _ => True) link) action) :
    Respects (Moves dev) action :=
  respects_movesFor h

/-- What is read at the start is a state of the opening. -/
theorem moves_get_bind {α : Type} {f : Connection σ → Exchange σ α}
    (h : ∀ c, link.SameOpening c.link → Respects (MovesFrom dev wants link) (f c)) :
    Respects (MovesFrom dev wants link) ((get : Exchange σ (Connection σ)) >>= f) :=
  fun c hc => h c hc c hc

theorem moves_get_seq {α : Type} {f : Connection σ → StateM (Connection σ) α}
    (h : ∀ c, link.SameOpening c.link → Respects (MovesFrom dev wants link) (f c)) :
    Respects (MovesFrom dev wants link) ((get : StateM (Connection σ) (Connection σ)) >>= f) :=
  fun c hc => h c hc c hc

/-! ## Calls and tags -/

theorem moves_attempt {call : Call} (hplain : call.isPlain) (h : link.AsksFor wants call) :
    Respects (MovesFrom dev wants link) (attempt dev call) :=
  fun _ hc => .single (.note (.call hplain (hc.asks h) _))

theorem moves_call {call : Call} (hplain : call.isPlain) (h : link.AsksFor wants call) :
    Respects (MovesFrom dev wants link) (Link.call dev call) :=
  fun _ hc => .single (.note (.call hplain (hc.asks h) _))

theorem moves_request {r : Request} (hplain : isPlainCode r.code) (h : link.Takes r) (hwants : wants r)
    (value : UInt16) :
    Respects (MovesFrom dev wants link) (request dev r value) := by
  refine moves_get_bind fun c hc =>
    (moves_call (by exact hplain) (hc.symm.asks (.request ?_ hwants))).bind
      fun answer => (respects_ofExcept _).bind fun status => ?_
  · rw [hc]
    exact h
  · split
    · exact respects_throw _
    · exact respects_pure _

/-! ## Polling and recovery -/

theorem moves_drain : Respects (MovesFrom dev wants link) (drain dev) :=
  moves_get_seq fun _ hc => (moves_attempt rfl (hc.symm.asks .drain)).seq fun _ => respects_skip _

theorem moves_drainIfAsked (answer : List UInt8) :
    Respects (MovesFrom dev wants link) (drainIfAsked dev answer) := by
  unfold drainIfAsked
  split
  · split
    · exact moves_drain
    · exact respects_skip ()
  · exact respects_skip ()

theorem moves_pollStatus (procedure : Procedure) {setup : Setup} {length : UInt16}
    (hplain : isPlainCode setup.request)
    (h : link.AsksFor wants (.controlIn setup length link.timing.abortTimeout))
    {onPending : List UInt8 → StateM (Connection σ) Unit}
    (hp : ∀ answer, Respects (MovesFrom dev wants link) (onPending answer)) (polls : Nat) :
    Respects (MovesFrom dev wants link) (pollStatus dev procedure setup length onPending polls) := by
  induction polls with
  | zero => exact respects_get.bind fun _ => respects_throw _
  | succ polls ih =>
    refine moves_get_bind fun c hc => (moves_call (by exact hplain) ?_).bind
      fun answer => (respects_ofExcept _).bind fun status => ?_
    · rw [hc]
      exact h
    · split
      · exact Respects.bind (respects_lift (hp answer)) fun _ => ih
      · exact respects_pure _

theorem moves_abortTransfer (procedure : Procedure) {initiate check : Request}
    {endpoint tag : UInt8} (hplain : isPlainCode initiate.code)
    (hplain' : isPlainCode check.code)
    (hinitiate : link.AsksFor wants (.controlIn (.toEndpoint initiate.code tag.toUInt16 endpoint) 2
      link.timing.abortTimeout))
    (hcheck : link.AsksFor wants
      (.controlIn (.toEndpoint check.code 0 endpoint) 8 link.timing.abortTimeout))
    {onPending : List UInt8 → StateM (Connection σ) Unit}
    (hp : ∀ answer, Respects (MovesFrom dev wants link) (onPending answer)) :
    Respects (MovesFrom dev wants link)
      (abortTransfer dev procedure initiate check endpoint tag onPending) := by
  refine moves_get_seq fun c hc =>
    (moves_attempt (by exact hplain) ?_).seq fun answer => ?_
  · rw [hc]
    exact hinitiate
  · cases answer with
    | error e => exact respects_skip false
    | ok answer =>
      dsimp only
      cases statusOf procedure.name answer with
      | error e => exact respects_skip false
      | ok status =>
        cases status with
        | success =>
          exact Respects.seq (moves_pollStatus procedure hplain' hcheck hp _) fun _ => respects_skip _
        | _ => exact respects_skip false

theorem moves_abortOut (tag : UInt8) : Respects (MovesFrom dev wants link) (abortOut dev tag) := by
  refine moves_get_seq fun c hc =>
    (moves_abortTransfer _ rfl rfl ?_ ?_ fun _ => respects_skip ()).seq
      fun finished => ?_
  · rw [hc]
    exact .initiateAbort .output
  · rw [hc]
    exact .checkAbort .output
  · split
    · exact (moves_attempt rfl (hc.symm.asks .clearHalt)).seq fun _ => respects_skip ()
    · exact respects_skip ()

theorem moves_abortIn (tag : UInt8) : Respects (MovesFrom dev wants link) (abortIn dev tag) := by
  refine moves_get_seq fun c hc =>
    (moves_abortTransfer _ rfl rfl ?_ ?_ moves_drainIfAsked).seq
      fun _ => respects_skip ()
  · rw [hc]
    exact .initiateAbort .input
  · rw [hc]
    exact .checkAbort .input

/-! ## Messages -/

/-- Drawing a tag and sending what bears it are one move, and the abort of the transfer is more. -/
theorem moves_send {c : Connection σ} {bytes : List UInt8}
    (h : c.link.Sends c.link.tags.next.current bytes) :
    MovesFor dev wants c
      (send dev c.link.tags.next.current bytes { c with link.tags := c.link.tags.next }).2 := by
  have hstep : MovesFor dev wants c (attempt dev (.bulkOut c.link.endpoints.bulkOut bytes
      c.link.timing.timeout) { c with link.tags := c.link.tags.next }).2 :=
    .single (.note (.transfer h _))
  rw [send_apply]
  generalize attempt dev _ _ = sent at hstep
  rcases sent with ⟨e | n, c'⟩
  · dsimp only
    split
    · exact hstep.trans (respects_movesFor (fun _ => moves_abortOut _) c')
    · exact hstep
  · exact hstep

theorem moves_sendNext {bytes : UInt8 → List UInt8} (h : ∀ tag, link.Sends tag (bytes tag)) :
    Respects (MovesFrom dev wants link) (nextTag >>= fun tag => send dev tag (bytes tag)) := by
  intro c hc
  rw [bind_of_ok (nextTag_apply c)]
  exact moves_send (hc.sends (h _))

theorem moves_receive (tag : UInt8) : Respects (MovesFrom dev wants link) (receive dev tag) := by
  refine moves_get_bind fun c hc =>
    Respects.bind (respects_lift (moves_attempt rfl (hc.symm.asks .receive))) fun answer => ?_
  cases answer with
  | ok data => exact respects_pure _
  | error e =>
    dsimp only
    split
    · exact Respects.bind (respects_lift (moves_abortIn tag)) fun _ => respects_throw _
    · exact respects_throw _

theorem moves_sendPiece (piece : List UInt8) (isLast : Bool) :
    Respects (MovesFrom dev wants link) (sendPiece dev piece isLast) :=
  moves_sendNext fun _ => .piece piece isLast

theorem moves_sendPieces :
    ∀ ps : List (List UInt8), Respects (MovesFrom dev wants link) (sendPieces dev ps)
  | [] => respects_pure ()
  | [last] => moves_sendPiece last true
  | piece :: next :: rest =>
    (moves_sendPiece piece false).bind fun _ => moves_sendPieces (next :: rest)

theorem moves_writeMessage (data : List UInt8) :
    Respects (MovesFrom dev wants link) (writeMessage dev data) :=
  respects_get.bind fun _ => moves_sendPieces _

theorem moves_readAll (tag : UInt8) (need : Nat) (data : List UInt8) :
    Respects (MovesFrom dev wants link) (readAll dev tag need data) := by
  fun_induction readAll dev tag need data with
  | case1 => exact respects_pure _
  | case2 data hlt ih =>
    refine (moves_receive tag).bind fun more => ?_
    split
    · exact respects_throw _
    · next hmore => exact ih more hmore

theorem moves_requestData : Respects (MovesFrom dev wants link) (requestData dev) := by
  intro c hc
  suffices h : MovesFor dev wants c (requestData dev c).2 from h
  rw [requestData, bind_of_ok (nextTag_apply c), get_bind_apply]
  refine Respects.bind_at (moves_send .request) fun _ =>
    Respects.bind (respects_movesFor fun _ => moves_receive _) fun bytes => ?_
  split
  · exact respects_throw _
  · split
    · exact respects_throw_bind _ _
    · exact respects_pure _

theorem moves_readEnvelope : Respects (MovesFrom dev wants link) (readEnvelope dev) :=
  moves_requestData.bind fun _ => (moves_readAll _ _ _).bind fun _ => respects_pure _

/-- Any number of envelopes are read by moves, whatever comes of each. -/
theorem moves_iterate_readEnvelope (dev : Device σ) (wants : Request → Prop) (c : Connection σ)
    (n : Nat) : MovesFor dev wants c ((fun c => (readEnvelope dev c).2)^[n] c) := by
  induction n with
  | zero => exact .refl
  | succ n ih =>
    rw [Function.iterate_succ_apply']
    exact ih.trans (respects_movesFor (fun _ => moves_readEnvelope) _)

/-- A message that comes to an end is read by moves. -/
theorem moves_of_readEnvelopes? (message : List UInt8) (c : Connection σ)
    {outcome : Except Failure (List UInt8) × Connection σ}
    (h : c.readEnvelopes? dev message = some outcome) : MovesFor dev wants c outcome.2 := by
  refine Connection.readEnvelopes?.partial_correctness dev
    (fun _ c outcome => MovesFor dev wants c outcome.2) ?_ message c outcome h
  intro rest ih message c outcome h
  have hc : MovesFor dev wants c (readEnvelope dev c).2 :=
    respects_movesFor (fun _ => moves_readEnvelope) c
  split at h
  · next hr =>
    obtain rfl := Option.some.inj h
    rwa [hr] at hc
  · next hr =>
    obtain rfl := Option.some.inj h
    rwa [hr] at hc
  · next hr =>
    rw [hr] at hc
    exact hc.trans (ih _ _ _ h)

theorem moves_readBlock (tag : UInt8) (data : List UInt8) (size : Nat) :
    Respects (MovesFrom dev wants link) (readBlock dev tag data size) := by
  unfold readBlock
  split
  · exact (moves_readAll tag _ data).bind fun _ => respects_pure _
  · exact (moves_readAll tag _ data).bind fun _ => respects_pure _

theorem moves_readBlockMessage : Respects (MovesFrom dev wants link) (readBlockMessage dev) := by
  refine moves_requestData.bind fun first => ?_
  dsimp only
  split
  · exact (moves_receive first.tag).bind fun data => moves_readBlock _ _ _
  · exact moves_readBlock _ _ _

theorem moves_readMessage : Respects (MovesFrom dev wants link) (readMessage dev) := by
  intro c hc
  unfold readMessage
  split
  · exact moves_readBlockMessage c hc
  · match h : c.readEnvelopes? dev [] with
    | none => exact .refl
    | some outcome => exact moves_of_readEnvelopes? [] c h

/-! ## Status, clear and trigger -/

theorem moves_queryStatusByte : Respects (MovesFrom dev wants link) (queryStatusByte dev) := by
  refine (moves_writeMessage _).bind fun _ => moves_readMessage.bind fun data => ?_
  dsimp only
  split
  · exact respects_pure _
  · exact respects_throw _

theorem moves_requestStatusByte {endpoint : Option UInt8} (hwants : wants .readStatusByte)
    (hmode : link.statusMode.isExtended)
    (hendpoint : ∀ address ∈ endpoint, link.statusMode = .interrupt address) :
    Respects (MovesFrom dev wants link) (requestStatusByte dev endpoint) := by
  intro c hc
  rw [requestStatusByte, bind_of_ok (nextStatusTag_apply c), get_bind_apply]
  -- The tag and the request that bears it are one move, so the steps after both are taken apart.
  refine Respects.bind_at (r := MovesFrom dev wants link) (fun _ => ?_)
    (fun answer => (respects_ofExcept _).bind fun status => ?_) hc
  · have hextended : c.link.statusMode.isExtended := by
      rw [hc]
      exact hmode
    exact .single (.note (.statusByte hextended hwants _))
  · dsimp only
    split
    · exact respects_throw_bind _ _
    · cases answer.drop 1 with
      | nil => exact respects_throw _
      | cons echo rest =>
        dsimp only
        split
        · exact respects_throw_bind _ _
        · cases endpoint with
          | some endpoint =>
            have hsame : link.SameOpening { c.link with statusTags := c.link.statusTags.next } :=
              hc.trans rfl
            refine (moves_call rfl (hsame.symm.asks (.notification ?_))).bind
              fun _ => respects_ofExcept _
            change c.link.statusMode = _
            rw [hc]
            exact hendpoint endpoint rfl
          | none =>
            cases rest with
            | nil => exact respects_throw _
            | cons status more => exact respects_pure _

theorem moves_readStatusByte (hwants : wants .readStatusByte) :
    Respects (MovesFrom dev wants link) (readStatusByte dev) := by
  refine moves_get_bind fun c hc => ?_
  have hmode : c.link.statusMode = link.statusMode := by rw [hc]
  rw [hmode]
  split
  · exact moves_queryStatusByte
  · next endpoint he =>
    refine moves_requestStatusByte hwants (by rw [he]; rfl) fun address ha => ?_
    rw [he, Option.some.inj ha]
  · next he => exact moves_requestStatusByte hwants (by rw [he]; rfl) nofun

theorem moves_clear : Respects (MovesFrom dev wants link) (clear dev) := by
  refine moves_get_bind fun c hc => (moves_call rfl (hc.symm.asks .initiateClear)).bind fun answer =>
    (respects_ofExcept _).bind fun status => ?_
  dsimp only
  split
  · exact respects_throw_bind _ _
  · refine Respects.bind (moves_pollStatus .clear rfl ?_ moves_drainIfAsked _) fun answer =>
      (respects_ofExcept _).bind fun status => ?_
    · rw [hc]
      exact .checkClear
    · split
      · exact respects_throw_bind _ _
      · exact moves_call rfl (hc.symm.asks .clearHalt)

theorem moves_trigger : Respects (MovesFrom dev wants link) (trigger dev) := by
  refine moves_get_bind fun c hc => ?_
  dsimp only
  split
  · next h =>
    rw [Bool.and_eq_true] at h
    exact moves_sendNext fun _ => hc.symm.sends (.trigger h)
  · exact moves_writeMessage _

theorem moves_pulse (hwants : wants .indicatorPulse) :
    Respects (MovesFrom dev wants link) (pulse dev) := by
  refine moves_get_bind fun c hc => ?_
  split
  · next h =>
    rw [hc] at h
    exact (moves_request (r := .indicatorPulse) rfl h hwants _).bind fun _ => respects_pure _
  · exact respects_pure _

/-! ## Remote control and the front panel -/

/-- What needs remote and local control is done only where the device knows of that. -/
theorem moves_requireRemoteLocal_bind {α : Type} {action : Exchange σ α}
    (h : link.capabilities.remoteLocal → Respects (MovesFrom dev wants link) action) :
    Respects (MovesFrom dev wants link) (requireRemoteLocal >>= fun _ => action) := by
  intro c hc
  rw [requireRemoteLocal_bind_apply]
  split
  · next hknown =>
    rw [hc] at hknown
    exact h hknown c hc
  · exact .refl

theorem moves_remoteControl (hwants : wants .remoteEnable) (on : Bool) :
    Respects (MovesFrom dev wants link) (remoteControl dev on) := by
  intro c _
  rw [remoteControl_apply]
  split
  · next hknown => exact .single (.note (.remote on hknown hwants _))
  · exact .refl

theorem moves_goToLocal (hwants : wants .goToLocal) :
    Respects (MovesFrom dev wants link) (goToLocal dev) :=
  moves_requireRemoteLocal_bind fun h => moves_request (r := .goToLocal) rfl h hwants _

theorem moves_localLockout (hwants : wants .localLockout) :
    Respects (MovesFrom dev wants link) (localLockout dev) :=
  moves_requireRemoteLocal_bind fun h => moves_request (r := .localLockout) rfl h hwants _

/-- What needs a lockable instrument is done only on one. -/
theorem moves_requireLockable_bind {α : Type} {operation : String} {action : Exchange σ α}
    (h : link.profile.isLockable → Respects (MovesFrom dev wants link) action) :
    Respects (MovesFrom dev wants link) (requireLockable operation >>= fun _ => action) := by
  intro c hc
  rw [requireLockable_bind_apply]
  split
  · next hlockable =>
    rw [hc] at hlockable
    exact h hlockable c hc
  · exact .refl

theorem moves_setLock (h : link.profile.isLockable) (hwants : wants .frontPanelLock) (on : Bool) :
    Respects (MovesFrom dev wants link) (setLock dev on) := by
  intro c hc
  have hlockable : c.link.Takes .frontPanelLock := by
    rw [hc]
    exact h
  rw [snd_setLock]
  exact .single (.note (.locked on hlockable hwants _))

theorem moves_lock (hwants : wants .frontPanelLock) :
    Respects (MovesFrom dev wants link) (lock dev) :=
  moves_requireLockable_bind fun h => moves_setLock h hwants true

theorem moves_unlock (hwants : wants .frontPanelLock) :
    Respects (MovesFrom dev wants link) (unlock dev) :=
  moves_requireLockable_bind fun h => moves_setLock h hwants false

theorem moves_readVendorId : Respects (MovesFrom dev wants link) (readVendorId dev) := by
  refine moves_requireLockable_bind fun h => moves_get_bind fun c hc =>
    Respects.bind (respects_lift (moves_attempt rfl (hc.symm.asks (.diagnosticId ?_))))
      fun answer => ?_
  · rw [hc]
    exact h
  · split
    · exact respects_pure _
    · exact respects_pure _

end Link

end Benchtop
