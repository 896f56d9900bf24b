import Benchtop.Proofs.Host.Ledger

/-!
# Endpoints of an opened device

An opened device opens an endpoint when a call first goes to it, and keeps it in one of three slots. A call
that finds its endpoint there does not look at the claim any more. What makes this safe is that the slots
are empty whenever no interface is held, and that is a fact about all that has been done before: whatever
the host answers, a release empties the slots and nothing but a claim fills them again.

A `Turn` is a call with its answer and with what it has asked of the host. `Turned` lists what a turn can
be, whatever the state of the host is (`turned_perform`). `held` and `kept` tell from the turns alone whether
an interface is held and which endpoint is open in a slot.

Main statement: in every course of calls, between which anything may happen to the host, no call gets to
the host without an interface, and an endpoint is opened exactly if it is not the one that is kept
(`endpoints_course`).
-/

namespace Benchtop

open Usb Host

/-! ## Calls and events -/

/-- The slot and the address of the endpoint that a call goes to. -/
def Usb.Call.target? : Call → Option (Slot × UInt8)
  | bulkOut endpoint _ _ => some (.bulkOut, endpoint)
  | bulkIn endpoint _ _ => some (.bulkIn, endpoint)
  | interruptIn endpoint _ _ => some (.interruptIn, endpoint)
  | clearHalt endpoint => some (if endpoint &&& 0x80 = 0 then .bulkOut else .bulkIn, endpoint)
  | _ => none

/-- Transfers and what belongs to them. -/
def Usb.Call.needsClaim : Call → Bool
  | controlIn _ _ _ => true
  | c => c.target?.isSome

theorem Usb.Call.needsClaim_of_target {c : Call} {slot : Slot} {address : UInt8}
    (h : c.target? = some (slot, address)) : c.needsClaim := by
  cases c <;> first | rfl | cases h

namespace Host

/-- The endpoint that is to be opened. -/
def Event.opening? : Event → Option (TransferKind × Direction × UInt8)
  | openEndpoint kind direction address => some (kind, direction, address)
  | _ => none

/-- The address of the endpoint that an event is for: a transfer, or the clearing of its halt. -/
def Event.endpoint? : Event → Option UInt8
  | transferOut address _ _ => some address
  | transferIn address _ _ => some address
  | clearHalt address => some address
  | _ => none

/-- The event has nothing to do with endpoints, but for the closing of one. -/
def Event.IsQuiet (e : Event) : Prop := e.opening? = none ∧ e.endpoint? = none

theorem Event.opening?_of_endpoint? {e : Event} {address : UInt8} (h : e.endpoint? = some address) :
    e.opening? = none := by
  cases e <;> first | rfl | cases h

/-! ## Turns -/

/-- A call of an opened device with its answer and with what it has asked of the host. -/
structure Turn where
  call : Call
  answer : Except BusError call.Answer
  events : List Event

namespace Turn

/-- The endpoints that were opened, or failed to be. -/
def openings (t : Turn) : List (TransferKind × Direction × UInt8) := t.events.filterMap Event.opening?

/-- The addresses of the endpoints that the call has got to. -/
def reached (t : Turn) : List UInt8 := t.events.filterMap Event.endpoint?

/-- Whether an interface is held after the turn, if that was so before: a claim that succeeds takes one
and a release gives it back. -/
def holds : Turn → Bool → Bool
  | ⟨.claim _ _, .ok _, _⟩, _ => true
  | ⟨.release _, _, _⟩, _ => false
  | _, held => held

/-- The endpoint that is open in a slot after the turn, if this one was before: a call that gets to an
endpoint leaves it in its slot, and a release leaves none. -/
def keeps (slot : Slot) (t : Turn) (kept : Option UInt8) : Option UInt8 :=
  match t.call with
  | .release _ => none
  | c =>
    match c.target? with
    | some (target, address) => if target = slot ∧ address ∈ t.reached then some address else kept
    | none => kept

end Turn

/-- An interface is held after these turns. -/
def held (turns : List Turn) : Bool := turns.foldl (fun held t => t.holds held) false

/-- The address of the endpoint that is open in a slot after these turns. -/
def kept (slot : Slot) (turns : List Turn) : Option UInt8 :=
  turns.foldl (fun kept t => t.keeps slot kept) none

theorem held_concat (turns : List Turn) (t : Turn) : held (turns ++ [t]) = t.holds (held turns) := by
  simp [held]

theorem kept_concat (slot : Slot) (turns : List Turn) (t : Turn) :
    kept slot (turns ++ [t]) = t.keeps slot (kept slot turns) := by
  simp [kept]

/-- A call of an opened device on a host. -/
def Opened.turn (o : Opened) (host : Host) (c : Call) : Turn where
  call := c
  answer := (perform c ⟨o, host⟩).1
  events := (perform c ⟨o, host⟩).2.host.log.drop host.log.length

/-- Calls of an opened device, one after the other, each with the host as it is found then. -/
def course (o : Opened) : List (Host × Call) → List Turn × Opened
  | [] => ([], o)
  | (host, c) :: visits =>
    let rest := course (perform c ⟨o, host⟩).2.opened visits
    (o.turn host c :: rest.1, rest.2)

/-! ## The log of a host -/

/-- These events have been added to the log. -/
def Adds (events : List Event) (h h' : Host) : Prop := h'.log = h.log ++ events

/-- The log has been added to, by quiet events only. -/
def AddsQuiet (h h' : Host) : Prop := ∃ events, Adds events h h' ∧ ∀ e ∈ events, e.IsQuiet

instance : Std.Refl (Adds []) where
  refl _ := (List.append_nil _).symm

theorem Adds.trans {h h' h'' : Host} {events events' : List Event} (hadds : Adds events h h')
    (hadds' : Adds events' h' h'') : Adds (events ++ events') h h'' := by
  rw [Adds, hadds', hadds, List.append_assoc]

instance : IsTrans Host (Adds []) where
  trans _ _ _ := Adds.trans

instance : Std.Refl AddsQuiet where
  refl h := ⟨[], refl_of (Adds []) h, nofun⟩

instance : IsTrans Host AddsQuiet where
  trans := by
    rintro _ _ _ ⟨events, hadds, hquiet⟩ ⟨events', hadds', hquiet'⟩
    refine ⟨events ++ events', hadds.trans hadds', fun e he => ?_⟩
    exact (List.mem_append.1 he).elim (hquiet e) (hquiet' e)

theorem Adds.quiet {h h' : Host} {e : Event} (hadds : Adds [e] h h') (he : e.IsQuiet) : AddsQuiet h h' :=
  ⟨[e], hadds, fun _ hmem => List.mem_singleton.1 hmem ▸ he⟩

section

variable {α : Type}

theorem adds_enter (e : Event) : Respects (Adds [e]) (enter e) := by
  intro h
  unfold enter
  dsimp only
  split <;> rfl

/-- A call of the host that logs itself and nothing after that. -/
theorem adds_enter_bind {e : Event} {f : Unit → Request α} (hf : Respects (Adds []) (f ())) :
    Respects (Adds [e]) (enter e >>= f) := by
  intro h
  have hentered := adds_enter e h
  rw [bind_apply]
  rcases hr : enter e h with ⟨error | _, h'⟩ <;> rw [hr] at hentered
  · exact hentered
  · exact Adds.trans hentered (hf h')

/-- A transfer that logs itself and nothing after that. -/
theorem adds_logged_bind {e : Event} {f : PUnit → Transfer α} (hf : Respects (Adds []) (f ⟨⟩)) :
    Respects (Adds [e]) ((modify fun h => h.logged e : Transfer PUnit) >>= f) :=
  fun h => Adds.trans (rfl : Adds [e] h (h.logged e)) (hf _)

theorem adds_setConfiguration (place : Nat) (value : UInt8) :
    Respects (Adds [.setConfiguration value]) (setConfiguration place value) :=
  adds_enter_bind (respects_modify fun _ => refl_of (Adds []) _)

theorem adds_detachDriver (place : Nat) (interface : UInt8) :
    Respects (Adds [.detachDriver interface]) (detachDriver place interface) := by
  refine adds_enter_bind (respects_get.bind fun h => ?_)
  split
  · exact respects_modify fun _ => refl_of (Adds []) _
  · exact respects_throw _

theorem adds_attachDriver (place : Nat) (interface : UInt8) :
    Respects (Adds [.attachDriver interface]) (attachDriver place interface) := by
  refine adds_enter_bind (respects_get.bind fun h => ?_)
  split
  · exact respects_throw _
  · exact respects_modify fun _ => refl_of (Adds []) _

theorem adds_claimInterface (place : Nat) (interface : UInt8) :
    Respects (Adds [.claim interface]) (claimInterface place interface) := by
  refine adds_enter_bind (respects_get.bind fun h => ?_)
  split
  · exact respects_throw_bind _ _
  · exact respects_get.bind fun _ =>
      Respects.bind (respects_modify fun _ => refl_of (Adds []) _) fun _ => respects_pure _

theorem addsQuiet_setAlternate (k : Nat) (alternate : UInt8) :
    Respects AddsQuiet (setAlternate k alternate) := by
  refine respects_get.bind fun h => ?_
  split
  · refine Respects.bind (fun h => (adds_enter _ h).quiet ⟨rfl, rfl⟩) fun _ => ?_
    dsimp only
    split
    · refine respects_get.bind fun _ => ?_
      split
      · exact respects_throw_bind _ _
      · exact respects_modify fun _ => refl_of AddsQuiet _
    · exact respects_throw_bind _ _
  · exact respects_throw _

theorem adds_openEndpoint (k : Nat) (kind : TransferKind) (direction : Direction) (address : UInt8) :
    Respects (Adds [.openEndpoint kind direction address]) (openEndpoint k kind direction address) := by
  refine adds_enter_bind (respects_get.bind fun h => ?_)
  split
  · dsimp only
    split
    · exact respects_throw _
    · split
      · exact respects_throw_bind _ _
      · split
        · exact respects_throw_bind _ _
        · split
          · exact respects_throw_bind _ _
          · exact Respects.bind (respects_modify fun _ => refl_of (Adds []) _) fun _ => respects_pure _
  · exact respects_throw _

theorem adds_controlIn (place : Nat) (setup : Setup) (length : UInt16) (timeout : Duration) :
    Respects (Adds [.controlIn setup length timeout]) (controlIn place setup length timeout) := by
  refine adds_logged_bind (respects_get.bind fun h => ?_)
  split
  · split
    · exact Respects.bind (respects_modify fun _ => refl_of (Adds []) _) fun _ =>
        (respects_ofExcept _).bind fun _ => respects_pure _
    · split
      · exact respects_pure _
      · exact respects_throw _
  · exact respects_throw _

theorem adds_transferOut (e : OpenEndpoint) (data : List UInt8) (timeout : Duration) :
    Respects (Adds [.transferOut e.address data timeout]) (transferOut e data timeout) := by
  refine adds_logged_bind (respects_get.bind fun h => respects_get.bind fun h => ?_)
  split
  · split
    · exact Respects.bind (respects_modify fun _ => refl_of (Adds []) _) fun _ => respects_ofExcept _
    · exact respects_pure _
  · exact respects_throw _

theorem log_of_takeIn {h next : Host} {place : Nat} {address : UInt8}
    {reply : Except TransferError (List UInt8)} (ht : h.takeIn place address = some (reply, next)) :
    next.log = h.log := by
  simp only [takeIn, Option.bind_eq_bind, Option.bind_eq_some_iff, Option.pure_def,
    Option.some.injEq, Prod.mk.injEq] at ht
  obtain ⟨_, -, _, -, -, rfl⟩ := ht
  rfl

theorem adds_transferIn (e : OpenEndpoint) (length : Nat) (timeout : Duration) :
    Respects (Adds [.transferIn e.address length timeout]) (transferIn e length timeout) := by
  intro h
  unfold transferIn
  dsimp only
  split
  · rfl
  · split
    · rfl
    all_goals next ht => exact log_of_takeIn ht

end

theorem addsQuiet_settleClaim (k : Nat) (h : Host) : AddsQuiet h (settleClaim k h) := by
  unfold settleClaim
  split
  · split
    · exact Adds.quiet (rfl : Adds [_] h (h.logged _)) ⟨rfl, rfl⟩
    · exact refl_of AddsQuiet h
  · exact refl_of AddsQuiet h

theorem addsQuiet_dropClaim (k : Nat) (h : Host) : AddsQuiet h (dropClaim k h) :=
  addsQuiet_settleClaim k { h with claims := h.claims.modify k fun c => { c with held := false } }

theorem addsQuiet_closeEndpoint (e : OpenEndpoint) (h : Host) : AddsQuiet h (closeEndpoint e h) := by
  have hlogged : AddsQuiet h (h.logged (.closeEndpoint e.address)) :=
    Adds.quiet (rfl : Adds [_] h (h.logged _)) ⟨rfl, rfl⟩
  exact trans_of AddsQuiet hlogged (addsQuiet_settleClaim e.claim
    { h.logged (.closeEndpoint e.address) with
      claims := h.claims.modify e.claim fun c => { c with endpoints := c.endpoints.erase e.address } })

/-! ## Slots -/

/-- The host's log has been added to by quiet events only. -/
def Seat.AddsQuiet (s s' : Seat) : Prop := Host.AddsQuiet s.host s'.host

instance : Std.Refl Seat.AddsQuiet where
  refl s := refl_of Host.AddsQuiet s.host

instance : IsTrans Seat Seat.AddsQuiet where
  trans _ _ _ := trans_of Host.AddsQuiet

theorem addsQuiet_closeSlot (slot : Slot) (s : Seat) : s.AddsQuiet (closeSlot slot s) := by
  unfold closeSlot
  split
  · exact refl_of Seat.AddsQuiet s
  · exact addsQuiet_closeEndpoint _ s.host

theorem addsQuiet_letGoOfClaim (s : Seat) : s.AddsQuiet (letGoOfClaim s) := by
  unfold letGoOfClaim
  split
  · exact refl_of Seat.AddsQuiet s
  · exact addsQuiet_dropClaim _ s.host

theorem addsQuiet_releaseAll (s : Seat) : s.AddsQuiet (releaseAll s) :=
  trans_of Seat.AddsQuiet
    (trans_of Seat.AddsQuiet
      (trans_of Seat.AddsQuiet (addsQuiet_closeSlot .bulkOut s) (addsQuiet_closeSlot .bulkIn _))
      (addsQuiet_closeSlot .interruptIn _))
    (addsQuiet_letGoOfClaim _)

/-- A release leaves neither a claim nor an endpoint. -/
theorem opened_releaseAll (s : Seat) : (releaseAll s).opened = { place := s.opened.place } := by
  rw [releaseAll, opened_letGoOfClaim, opened_closeSlots]

theorem addsQuiet_claim (interface alternate : UInt8) : Respects Seat.AddsQuiet (claim interface alternate) := by
  have hask {α : Type} (error : String → BusError) {request : Request α}
      (h : Respects Host.AddsQuiet request) : Respects Seat.AddsQuiet (ask error request) :=
    fun s => h s.host
  refine respects_get.bind fun s => (hask _ fun h => (adds_claimInterface _ _ h).quiet ⟨rfl, rfl⟩).bind
    fun k => ?_
  have hput : Respects Seat.AddsQuiet
      (modify fun s => { letGoOfClaim s with opened.claim := some k } : OnDevice PUnit) :=
    respects_modify fun s => addsQuiet_letGoOfClaim s
  dsimp only
  split
  · refine Respects.bind ((hask _ (addsQuiet_setAlternate k alternate)).tryCatch fun e => ?_) fun _ => hput
    exact Respects.bind (respects_modify fun s => addsQuiet_dropClaim k s.host) fun _ => respects_throw e
  · exact hput

/-- A claim that succeeds is held from then on, one that fails leaves what was held. The endpoints stay as
they are. -/
theorem ensures_claim_opened (interface alternate : UInt8) (o : Opened) :
    Ensures (fun s => s.opened = o) (claim interface alternate)
      (fun _ s => ∃ k, s.opened = { o with claim := some k }) fun _ s => s.opened = o := by
  have hask {α : Type} (error : String → BusError) (request : Request α) :
      Ensures (fun s => s.opened = o) (ask error request) (fun _ s => s.opened = o)
        fun _ s => s.opened = o := by
    intro s hs
    unfold ask
    rcases request s.host with ⟨e | a, host⟩ <;> exact hs
  refine ensures_get.bind fun s => (hask _ _).bind fun k => ?_
  have hput : Ensures (fun s => s.opened = o)
      (modify fun s => { letGoOfClaim s with opened.claim := some k } : OnDevice PUnit)
      (fun _ s => ∃ k, s.opened = { o with claim := some k }) fun _ s => s.opened = o := by
    refine ensures_modify fun s hs => ⟨k, ?_⟩
    dsimp only
    rw [opened_letGoOfClaim, hs]
  dsimp only
  split
  · refine Ensures.bind ((hask _ _).tryCatch fun e => ?_) fun _ => hput
    exact Ensures.bind (ensures_modify (r := fun s => s.opened = o) fun s hs => hs) fun _ =>
      ensures_throw fun _ => id
  · exact hput

/-! ## Finding an endpoint -/

/-- The address of the endpoint that is open in a slot. -/
def Opened.address? (o : Opened) (slot : Slot) : Option UInt8 := (slot.get o).map (·.address)

/-- What may come of looking for the endpoint of an address. -/
inductive Finding (slot : Slot) (address : UInt8) (s : Seat) : Except BusError OpenEndpoint × Seat → Prop
  /-- It is open. -/
  | kept {e : OpenEndpoint} (hget : slot.get s.opened = some e) (he : e.address = address) :
    Finding slot address s (.ok e, s)
  /-- It is not open, and there is no claim to open it under. -/
  | unclaimed (hkept : s.opened.address? slot ≠ some address) (hclaim : s.opened.claim = none) :
    Finding slot address s (.error .notClaimed, s)
  /-- It is not open, and the host does not open it. -/
  | unopened (hkept : s.opened.address? slot ≠ some address) (hclaim : s.opened.claim ≠ none)
    (text : String) {host : Host}
    (hadds : Adds [.openEndpoint slot.kind slot.direction address] s.host host) :
    Finding slot address s (.error (.transferFailed text), { s with host })
  /-- The host has opened it, and it has taken the place of the one that was open. -/
  | opened (hkept : s.opened.address? slot ≠ some address) (hclaim : s.opened.claim ≠ none)
    {e : OpenEndpoint} (he : e.address = address) {host : Host} {closings : List Event}
    (hadds : Adds (.openEndpoint slot.kind slot.direction address :: closings) s.host host)
    (hquiet : ∀ event ∈ closings, event.IsQuiet) :
    Finding slot address s (.ok e, ⟨slot.set (some e) s.opened, host⟩)

/-- An endpoint that has been opened has the address that it was opened by. -/
theorem address_of_openEndpoint {k : Nat} {kind : TransferKind} {direction : Direction}
    {address : UInt8} {h h' : Host} {e : OpenEndpoint}
    (hopen : openEndpoint k kind direction address h = (.ok e, h')) : e.address = address := by
  have hensures : Ensures (fun _ => True) (openEndpoint k kind direction address)
      (fun e _ => e.address = address) fun _ _ => True := by
    have hentered : Ensures (fun _ => True) (enter (.openEndpoint kind direction address))
        (fun _ _ => True) fun _ _ => True := fun h _ => by split <;> trivial
    refine hentered.bind fun _ => ensures_get.bind fun h => ?_
    split
    · dsimp only
      split
      · exact ensures_throw fun _ => id
      · split
        · exact ensures_throw_bind fun _ => id
        · split
          · exact ensures_throw_bind fun _ => id
          · split
            · exact ensures_throw_bind fun _ => id
            · exact Ensures.bind (ensures_modify (r := fun _ => True) fun _ => id) fun _ =>
                ensures_pure fun _ _ => rfl
    · exact ensures_throw fun _ => id
  have hopened := hensures h trivial
  rw [hopen] at hopened
  exact hopened

theorem finding_endpointFor (slot : Slot) (address : UInt8) (s : Seat) :
    Finding slot address s (endpointFor slot address s) := by
  rw [endpointFor, get_bind_apply]
  cases hfound : (slot.get s.opened).filter (·.address == address) with
  | some e =>
    obtain ⟨hget, he⟩ := Option.filter_eq_some_iff.1 hfound
    exact .kept hget (eq_of_beq he)
  | none =>
    have hkept : s.opened.address? slot ≠ some address := by
      intro haddress
      obtain ⟨e, hget, he⟩ := Option.map_eq_some_iff.1 haddress
      rw [hget, Option.filter_some, if_pos (beq_iff_eq.2 he)] at hfound
      cases hfound
    cases hclaim : s.opened.claim with
    | none => exact .unclaimed hkept hclaim
    | some k =>
      have hsome : s.opened.claim ≠ none := by simp [hclaim]
      have hadds := adds_openEndpoint k slot.kind slot.direction address s.host
      dsimp only
      rw [bind_apply, ask]
      rcases hopen : openEndpoint k slot.kind slot.direction address s.host with ⟨text | e, host⟩ <;>
        rw [hopen] at hadds
      · exact .unopened hkept hsome text hadds
      · obtain ⟨closings, hclosings, hquiet⟩ := addsQuiet_closeSlot slot { s with host }
        have hopened : (closeSlot slot { s with host }).opened = slot.set none s.opened :=
          opened_closeSlot slot { s with host }
        have hset : slot.set (some e) (closeSlot slot { s with host }).opened =
            slot.set (some e) s.opened := by rw [hopened, Slot.set_set]
        have hfinding := Finding.opened hkept hsome (address_of_openEndpoint hopen)
          (Adds.trans hadds hclosings) hquiet
        rw [← hset] at hfinding
        exact hfinding

/-! ## What a turn can be -/

/-- From an opened device, the turn may be this, and leaves the device so. -/
inductive Turned (o : Opened) : Turn → Opened → Prop
  /-- The host is asked for nothing without an interface. -/
  | refused {c : Call} (hneeds : c.needsClaim) (hclaim : o.claim = none)
    (hkept : ∀ slot address, c.target? = some (slot, address) → o.address? slot ≠ some address) :
    Turned o ⟨c, .error .notClaimed, []⟩ o
  /-- The call goes to no endpoint, and leaves what is held as it is. A claim that fails is such a call. -/
  | aside {c : Call} (htarget : c.target? = none) (hclaim : c.needsClaim → o.claim ≠ none)
    {answer : Except BusError c.Answer} {events : List Event}
    (hholds : ∀ held, Turn.holds ⟨c, answer, events⟩ held = held)
    (hkeeps : ∀ slot kept, Turn.keeps slot ⟨c, answer, events⟩ kept = kept)
    (hquiet : ∀ e ∈ events, e.IsQuiet) : Turned o ⟨c, answer, events⟩ o
  | claimed (interface alternate : UInt8) (k : Nat) {events : List Event}
    (hquiet : ∀ e ∈ events, e.IsQuiet) :
    Turned o ⟨.claim interface alternate, .ok (), events⟩ { o with claim := some k }
  | released (interface : UInt8) {events : List Event} (hquiet : ∀ e ∈ events, e.IsQuiet) :
    Turned o ⟨.release interface, .ok (), events⟩ { place := o.place }
  /-- The endpoint is open, and the call gets to it at once. -/
  | used {c : Call} {slot : Slot} {address : UInt8} (htarget : c.target? = some (slot, address))
    (hkept : o.address? slot = some address) (answer : Except BusError c.Answer) {event : Event}
    (hevent : event.endpoint? = some address) : Turned o ⟨c, answer, [event]⟩ o
  /-- The endpoint is not open, and cannot be opened. -/
  | unopened {c : Call} {slot : Slot} {address : UInt8} (htarget : c.target? = some (slot, address))
    (hkept : o.address? slot ≠ some address) (hclaim : o.claim ≠ none)
    (answer : Except BusError c.Answer) :
    Turned o ⟨c, answer, [.openEndpoint slot.kind slot.direction address]⟩ o
  /-- The endpoint is opened in place of the one that was open, and the call gets to it. -/
  | opened {c : Call} {slot : Slot} {address : UInt8} (htarget : c.target? = some (slot, address))
    (hkept : o.address? slot ≠ some address) (hclaim : o.claim ≠ none)
    (answer : Except BusError c.Answer) {closings : List Event} (hquiet : ∀ e ∈ closings, e.IsQuiet)
    {event : Event} (hevent : event.endpoint? = some address) {e : OpenEndpoint}
    (he : e.address = address) :
    Turned o ⟨c, answer, .openEndpoint slot.kind slot.direction address :: closings ++ [event]⟩
      (slot.set (some e) o)

section

variable {o : Opened} {host : Host} {c : Call}

/-- What a call does is a turn, if what it has added to the log is known. -/
theorem turned_of_adds {answer : Except BusError c.Answer} {s : Seat} {events : List Event}
    (hperform : perform c ⟨o, host⟩ = (answer, s)) (hadds : Adds events host s.host)
    (hturned : Turned o ⟨c, answer, events⟩ s.opened) :
    Turned o (o.turn host c) (perform c ⟨o, host⟩).2.opened ∧
      host.log <+: (perform c ⟨o, host⟩).2.host.log := by
  have hlog : s.host.log = host.log ++ events := hadds
  rw [Opened.turn, hperform, hlog, List.drop_left]
  exact ⟨hturned, List.prefix_append _ _⟩

/-- The opened device stays as it is, and the log has been added to by quiet events only. -/
def Seat.Aside (s s' : Seat) : Prop := s'.opened = s.opened ∧ s.AddsQuiet s'

instance : Std.Refl Seat.Aside where
  refl s := ⟨rfl, refl_of Seat.AddsQuiet s⟩

instance : IsTrans Seat Seat.Aside where
  trans _ _ _ h h' := ⟨h'.1.trans h.1, trans_of Seat.AddsQuiet h.2 h'.2⟩

theorem aside_ask {α : Type} (error : String → BusError) {request : Request α} {e : Event}
    (h : Respects (Adds [e]) request) (he : e.IsQuiet) : Respects Seat.Aside (ask error request) :=
  fun s => ⟨rfl, (h s.host).quiet he⟩

theorem aside_carry {α : Type} (endpoint : UInt8) (timeout : Duration) {transfer : Transfer α} {e : Event}
    (h : Respects (Adds [e]) transfer) (he : e.IsQuiet) :
    Respects Seat.Aside (carry endpoint timeout transfer) :=
  fun s => ⟨rfl, (h s.host).quiet he⟩

/-- A call that goes to no endpoint and leaves the device as it is. -/
theorem turned_of_aside (htarget : c.target? = none) (hclaim : c.needsClaim → o.claim ≠ none)
    (hholds : ∀ events held, Turn.holds ⟨c, (perform c ⟨o, host⟩).1, events⟩ held = held)
    (hkeeps : ∀ answer events slot kept, Turn.keeps slot ⟨c, answer, events⟩ kept = kept)
    (haside : Seat.Aside ⟨o, host⟩ (perform c ⟨o, host⟩).2) :
    Turned o (o.turn host c) (perform c ⟨o, host⟩).2.opened ∧
      host.log <+: (perform c ⟨o, host⟩).2.host.log := by
  obtain ⟨hopened, events, hadds, hquiet⟩ := haside
  refine turned_of_adds (Prod.eta (perform c ⟨o, host⟩)).symm hadds ?_
  rw [hopened]
  exact .aside htarget hclaim (hholds events) (hkeeps _ events) hquiet

/-- A call that goes to an endpoint finds it first, and then asks the host for one thing. -/
theorem turned_of_endpointFor {slot : Slot} {address : UInt8} (htarget : c.target? = some (slot, address))
    {f : OpenEndpoint → OnDevice c.Answer} (hperform : perform c = endpointFor slot address >>= f)
    (hf : ∀ e s, ∃ event, event.endpoint? = some e.address ∧ (f e s).2.opened = s.opened ∧
      Adds [event] s.host (f e s).2.host) :
    Turned o (o.turn host c) (perform c ⟨o, host⟩).2.opened ∧
      host.log <+: (perform c ⟨o, host⟩).2.host.log := by
  have hfinding := finding_endpointFor slot address ⟨o, host⟩
  have happly := congrFun hperform (⟨o, host⟩ : Seat)
  rw [bind_apply] at happly
  generalize endpointFor slot address ⟨o, host⟩ = found at hfinding happly
  cases hfinding with
  | kept hget he =>
    obtain ⟨event, hevent, hopened, hadds⟩ := hf _ ⟨o, host⟩
    refine turned_of_adds happly hadds ?_
    rw [hopened]
    exact .used htarget (by rw [Opened.address?, hget, Option.map_some, he]) _ (he ▸ hevent)
  | unclaimed hkept hclaim =>
    refine turned_of_adds happly (refl_of (Adds []) host) (.refused (Call.needsClaim_of_target htarget) hclaim ?_)
    rintro slot' address' htarget'
    cases htarget.symm.trans htarget'
    exact hkept
  | unopened hkept hclaim text hadds =>
    exact turned_of_adds happly hadds (.unopened htarget hkept hclaim _)
  | opened hkept hclaim he hadds hquiet =>
    obtain ⟨event, hevent, hopened, hadds'⟩ := hf _ ⟨slot.set _ o, _⟩
    refine turned_of_adds happly (hadds.trans hadds') ?_
    rw [hopened]
    exact .opened htarget hkept hclaim _ hquiet (he ▸ hevent) he

/-- Whatever call is made and whatever the host answers, it is one of these turns, and the log of the host
has been added to. -/
theorem turned_perform (o : Opened) (host : Host) (c : Call) :
    Turned o (o.turn host c) (perform c ⟨o, host⟩).2.opened ∧
      host.log <+: (perform c ⟨o, host⟩).2.host.log := by
  have htransfer {α : Type} (endpoint : UInt8) (timeout : Duration) {transfer : Transfer α} {event : Event}
      (h : Respects (Adds [event]) transfer) (s : Seat) :
      (carry endpoint timeout transfer s).2.opened = s.opened ∧
        Adds [event] s.host (carry endpoint timeout transfer s).2.host :=
    ⟨rfl, h s.host⟩
  cases c with
  | setConfiguration value =>
    exact turned_of_aside rfl nofun (fun _ _ => rfl) (fun _ _ _ _ => rfl)
      (aside_ask _ (adds_setConfiguration _ value) ⟨rfl, rfl⟩ _)
  | detachDriver interface =>
    refine turned_of_aside rfl nofun (fun _ _ => rfl) (fun _ _ _ _ => rfl) ?_
    refine Respects.tryCatch (r := Seat.Aside) ?_ (fun _ => respects_pure _) _
    exact respects_get.bind fun s =>
      (aside_ask _ (adds_detachDriver _ interface) ⟨rfl, rfl⟩).bind fun _ => respects_pure _
  | attachDriver interface =>
    exact turned_of_aside rfl nofun (fun _ _ => rfl) (fun _ _ _ _ => rfl)
      (aside_ask _ (adds_attachDriver _ interface) ⟨rfl, rfl⟩ _)
  | claim interface alternate =>
    have hquiet : Seat.AddsQuiet ⟨o, host⟩ (perform (.claim interface alternate) ⟨o, host⟩).2 :=
      addsQuiet_claim interface alternate ⟨o, host⟩
    have hopened := ensures_claim_opened interface alternate o ⟨o, host⟩ rfl
    obtain ⟨events, hadds, hquiet⟩ := hquiet
    rcases hperform : perform (.claim interface alternate) ⟨o, host⟩ with ⟨e | _, s⟩ <;>
      rw [hperform] at hadds
    · have hsame : s.opened = o := by
        rw [show claim interface alternate ⟨o, host⟩ = _ from hperform] at hopened
        exact hopened
      rw [← hperform]
      refine turned_of_adds hperform hadds ?_
      rw [hsame]
      exact .aside rfl (fun h => by cases h) (fun _ => rfl) (fun _ _ => rfl) hquiet
    · obtain ⟨k, hclaimed⟩ : ∃ k, s.opened = { o with claim := some k } := by
        rw [show claim interface alternate ⟨o, host⟩ = _ from hperform] at hopened
        exact hopened
      rw [← hperform]
      refine turned_of_adds hperform hadds ?_
      rw [hclaimed]
      exact .claimed interface alternate k hquiet
  | release interface =>
    obtain ⟨events, hadds, hquiet⟩ := addsQuiet_releaseAll ⟨o, host⟩
    have hopened : (releaseAll ⟨o, host⟩).opened = { place := o.place } := opened_releaseAll ⟨o, host⟩
    refine turned_of_adds (s := releaseAll ⟨o, host⟩) rfl hadds ?_
    rw [hopened]
    exact .released interface hquiet
  | controlIn setup length timeout =>
    cases hclaim : o.claim with
    | none =>
      have hperform : perform (.controlIn setup length timeout) ⟨o, host⟩ =
          (.error .notClaimed, ⟨o, host⟩) := by
        dsimp only [perform]
        rw [get_bind_apply]
        dsimp only
        rw [hclaim]
        rfl
      exact turned_of_adds hperform (refl_of (Adds []) host) (.refused rfl hclaim fun _ _ h => by cases h)
    | some k =>
      have hperform : perform (.controlIn setup length timeout) ⟨o, host⟩ =
          carry 0 timeout (controlIn o.place setup length timeout) ⟨o, host⟩ := by
        dsimp only [perform]
        rw [get_bind_apply]
        dsimp only
        rw [hclaim]
        rfl
      refine turned_of_aside rfl (fun _ => by simp [hclaim]) (fun _ _ => rfl) (fun _ _ _ _ => rfl) ?_
      rw [hperform]
      exact aside_carry 0 timeout (adds_controlIn _ setup length timeout) ⟨rfl, rfl⟩ _
  | bulkOut endpoint data timeout =>
    exact turned_of_endpointFor rfl rfl fun e s =>
      ⟨_, rfl, htransfer endpoint timeout (adds_transferOut e data timeout) s⟩
  | bulkIn endpoint maxLength timeout =>
    exact turned_of_endpointFor rfl rfl fun e s =>
      ⟨_, rfl, htransfer endpoint timeout (adds_transferIn e _ timeout) s⟩
  | interruptIn endpoint maxLength timeout =>
    exact turned_of_endpointFor rfl rfl fun e s =>
      ⟨_, rfl, htransfer endpoint timeout (adds_transferIn e _ timeout) s⟩
  | clearHalt endpoint =>
    exact turned_of_endpointFor rfl rfl fun e s => ⟨_, rfl, rfl, adds_enter (.clearHalt e.address) s.host⟩

end

/-! ## What turns tell -/

theorem filterMap_opening?_of_quiet {events : List Event} (h : ∀ e ∈ events, e.IsQuiet) :
    events.filterMap Event.opening? = [] :=
  List.filterMap_eq_nil_iff.2 fun e he => (h e he).1

theorem filterMap_endpoint?_of_quiet {events : List Event} (h : ∀ e ∈ events, e.IsQuiet) :
    events.filterMap Event.endpoint? = [] :=
  List.filterMap_eq_nil_iff.2 fun e he => (h e he).2

namespace Turn

variable {c : Call} {answer : Except BusError c.Answer} {events : List Event} {slot target : Slot}
  {address : UInt8}

/-- A call that needs an interface neither takes one nor gives it back. -/
theorem holds_of_needsClaim (h : c.needsClaim) (held : Bool) :
    holds ⟨c, answer, events⟩ held = held := by
  cases c <;> first | rfl | cases h

theorem keeps_of_target (h : c.target? = some (target, address)) (kept : Option UInt8) :
    keeps slot ⟨c, answer, events⟩ kept =
      if target = slot ∧ address ∈ reached ⟨c, answer, events⟩ then some address else kept := by
  cases c <;> first | cases h; rfl | cases h

/-- A call that needs an interface and gets to no endpoint leaves open what was. -/
theorem keeps_of_reached_eq_nil (hneeds : c.needsClaim) (h : reached ⟨c, answer, events⟩ = [])
    (kept : Option UInt8) : keeps slot ⟨c, answer, events⟩ kept = kept := by
  cases htarget : c.target? with
  | none => cases c <;> first | rfl | (cases hneeds; done) | cases htarget
  | some found => rw [keeps_of_target htarget, h, if_neg (fun hin => List.not_mem_nil hin.2)]

section

variable {event : Event} (hevent : event.endpoint? = some address)

include hevent

theorem openings_used : openings ⟨c, answer, [event]⟩ = [] := by
  rw [openings, List.filterMap_cons_none (Event.opening?_of_endpoint? hevent), List.filterMap_nil]

theorem reached_used : reached ⟨c, answer, [event]⟩ = [address] := by
  rw [reached, List.filterMap_cons_some hevent, List.filterMap_nil]

variable {closings : List Event} (hquiet : ∀ e ∈ closings, e.IsQuiet) (kind : TransferKind)
  (direction : Direction) (opened : UInt8)

include hquiet

theorem openings_opened :
    openings ⟨c, answer, .openEndpoint kind direction opened :: closings ++ [event]⟩ =
      [(kind, direction, opened)] := by
  have hlast : [event].filterMap Event.opening? = [] :=
    List.filterMap_cons_none (Event.opening?_of_endpoint? hevent)
  show (kind, direction, opened) :: (closings ++ [event]).filterMap Event.opening? = _
  rw [List.filterMap_append, filterMap_opening?_of_quiet hquiet, hlast, List.append_nil]

theorem reached_opened :
    reached ⟨c, answer, .openEndpoint kind direction opened :: closings ++ [event]⟩ = [address] := by
  have hlast : [event].filterMap Event.endpoint? = [address] := List.filterMap_cons_some hevent
  show (closings ++ [event]).filterMap Event.endpoint? = _
  rw [List.filterMap_append, filterMap_endpoint?_of_quiet hquiet, hlast, List.nil_append]

end

end Turn

theorem Slot.address?_set (slot slot' : Slot) (e : OpenEndpoint) (o : Opened) :
    (slot.set (some e) o).address? slot' = if slot = slot' then some e.address else o.address? slot' := by
  cases slot <;> cases slot' <;> rfl

/-- The turns tell what the opened device holds: whether it has a claim, and which endpoints are open in
its slots. Without a claim there are none. -/
structure Opened.After (turns : List Turn) (o : Opened) : Prop where
  held_eq : held turns = o.claim.isSome
  kept_eq : ∀ slot, kept slot turns = o.address? slot
  empty : o.claim = none → ∀ slot : Slot, slot.get o = none

/-- What a turn comes to after these ones. -/
structure Turn.Proper (before : List Turn) (t : Turn) : Prop where
  /-- Without an interface, nothing that needs one gets to the host. -/
  refused : held before = false → t.call.needsClaim →
    t.answer = .error .notClaimed ∧ t.events = []
  /-- The endpoint of the call is opened if it is not the one that is kept, and no other is. -/
  openings_eq : t.openings =
    match t.call.target? with
    | some (slot, address) =>
      if held before = true ∧ kept slot before ≠ some address then
        [(slot.kind, slot.direction, address)]
      else []
    | none => []
  /-- The call gets to no endpoint but its own, and only while an interface is held. -/
  held_of_reached : ∀ address ∈ t.reached,
    held before = true ∧ ∃ slot, t.call.target? = some (slot, address)
  /-- It gets to the one that is kept. -/
  reached_of_kept : ∀ slot address, t.call.target? = some (slot, address) →
    kept slot before = some address → t.reached = [address]

section

variable {turns : List Turn} {o o' : Opened} {t : Turn}

theorem Opened.After.isSome_of_kept (h : o.After turns) {slot : Slot} {address : UInt8}
    (hkept : o.address? slot = some address) : o.claim ≠ none := by
  intro hclaim
  rw [Opened.address?, h.empty hclaim slot] at hkept
  cases hkept

theorem Opened.After.held_of_isSome (h : o.After turns) (hclaim : o.claim ≠ none) : held turns = true := by
  rw [h.held_eq]
  exact Option.isSome_iff_ne_none.2 hclaim

theorem Turned.proper (ht : Turned o t o') (h : o.After turns) : t.Proper turns := by
  cases ht with
  | @refused c hneeds hclaim hkept =>
    have hheld : held turns = false := by rw [h.held_eq, hclaim]; rfl
    refine ⟨fun _ _ => ⟨rfl, rfl⟩, ?_, nofun, fun slot address htarget haddress => ?_⟩
    · simp only [hheld, Bool.false_eq_true, false_and, if_false]
      cases c.target? <;> rfl
    · exact absurd ((h.kept_eq slot).symm.trans haddress) (hkept slot address htarget)
  | aside htarget hclaim hholds hkeeps hquiet =>
    refine ⟨fun hheld hneeds => ?_, ?_, ?_, ?_⟩
    · rw [h.held_of_isSome (hclaim hneeds)] at hheld
      cases hheld
    · rw [Turn.openings, htarget]
      exact filterMap_opening?_of_quiet hquiet
    · rw [Turn.reached, filterMap_endpoint?_of_quiet hquiet]
      nofun
    · rw [htarget]
      nofun
  | claimed interface alternate k hquiet =>
    refine ⟨fun _ hneeds => (by cases hneeds), filterMap_opening?_of_quiet hquiet, ?_, nofun⟩
    rw [Turn.reached, filterMap_endpoint?_of_quiet hquiet]
    nofun
  | released interface hquiet =>
    refine ⟨fun _ hneeds => (by cases hneeds), filterMap_opening?_of_quiet hquiet, ?_, nofun⟩
    rw [Turn.reached, filterMap_endpoint?_of_quiet hquiet]
    nofun
  | @used c slot address htarget hkept answer event hevent =>
    have hheld := h.held_of_isSome (h.isSome_of_kept hkept)
    have hreached : Turn.reached ⟨c, answer, [event]⟩ = [address] := Turn.reached_used hevent
    refine ⟨fun hnot => ?_, ?_, fun a ha => ⟨hheld, slot, ?_⟩, fun slot' a htarget' _ => ?_⟩
    · rw [hheld] at hnot
      cases hnot
    · rw [htarget]
      dsimp only
      rw [Turn.openings_used hevent, if_neg fun hnot => hnot.2 ((h.kept_eq slot).trans hkept)]
    · rw [hreached, List.mem_singleton] at ha
      rw [ha]
      exact htarget
    · cases htarget.symm.trans htarget'
      exact hreached
  | @unopened c slot address htarget hkept hclaim answer =>
    have hheld := h.held_of_isSome hclaim
    refine ⟨fun hnot => ?_, ?_, nofun, fun slot' a htarget' haddress => ?_⟩
    · rw [hheld] at hnot
      cases hnot
    · rw [htarget]
      dsimp only
      rw [if_pos ⟨hheld, h.kept_eq slot ▸ hkept⟩]
      rfl
    · cases htarget.symm.trans htarget'
      exact absurd ((h.kept_eq slot).symm.trans haddress) hkept
  | @opened c slot address htarget hkept hclaim answer closings hquiet event hevent e he =>
    have hheld := h.held_of_isSome hclaim
    have hreached : Turn.reached
        ⟨c, answer, .openEndpoint slot.kind slot.direction address :: closings ++ [event]⟩ = [address] :=
      Turn.reached_opened hevent hquiet _ _ _
    refine ⟨fun hnot => ?_, ?_, fun a ha => ⟨hheld, slot, ?_⟩, fun slot' a htarget' _ => ?_⟩
    · rw [hheld] at hnot
      cases hnot
    · rw [htarget]
      dsimp only
      rw [if_pos ⟨hheld, h.kept_eq slot ▸ hkept⟩]
      exact Turn.openings_opened hevent hquiet _ _ _
    · rw [hreached, List.mem_singleton] at ha
      rw [ha]
      exact htarget
    · cases htarget.symm.trans htarget'
      exact hreached

theorem Turned.after (ht : Turned o t o') (h : o.After turns) : o'.After (turns ++ [t]) where
  held_eq := by
    rw [held_concat, h.held_eq]
    cases ht with
    | refused hneeds => exact Turn.holds_of_needsClaim hneeds _
    | aside _ _ hholds => exact hholds _
    | claimed => rfl
    | released => rfl
    | used htarget => exact Turn.holds_of_needsClaim (Call.needsClaim_of_target htarget) _
    | unopened htarget => exact Turn.holds_of_needsClaim (Call.needsClaim_of_target htarget) _
    | opened htarget =>
      rw [Turn.holds_of_needsClaim (Call.needsClaim_of_target htarget), Slot.claim_set]
  kept_eq slot := by
    rw [kept_concat, h.kept_eq]
    cases ht with
    | refused hneeds => exact Turn.keeps_of_reached_eq_nil hneeds rfl _
    | aside _ _ _ hkeeps => exact hkeeps slot _
    | claimed => cases slot <;> rfl
    | released => cases slot <;> rfl
    | used htarget hkept _ hevent =>
      rw [Turn.keeps_of_target htarget, Turn.reached_used hevent]
      split
      next hsame => exact hsame.1 ▸ hkept.symm
      next => rfl
    | unopened htarget => exact Turn.keeps_of_reached_eq_nil (Call.needsClaim_of_target htarget) rfl _
    | opened htarget _ _ _ hquiet hevent he =>
      rw [Turn.keeps_of_target htarget, Turn.reached_opened hevent hquiet, Slot.address?_set, he]
      simp only [List.mem_singleton, and_true]
  empty := by
    cases ht with
    | refused | aside | used | unopened => exact h.empty
    | claimed => nofun
    | released => exact fun _ slot => by cases slot <;> rfl
    | opened _ _ hclaim => exact fun hnone => absurd ((Slot.claim_set _ _ _).symm.trans hnone) hclaim

theorem Opened.after_nil (place : Nat) : Opened.After [] { place } where
  held_eq := rfl
  kept_eq slot := by cases slot <;> rfl
  empty _ slot := by cases slot <;> rfl

end

/-! ## Courses of calls -/

/-- Every turn of a course comes to what the turns before it say, those before the course included. -/
theorem Opened.After.course (visits : List (Host × Call)) : ∀ {turns : List Turn} {o : Opened},
    o.After turns →
      (∀ before t after, (course o visits).1 = before ++ t :: after → t.Proper (turns ++ before)) ∧
        (course o visits).2.After (turns ++ (course o visits).1) := by
  induction visits with
  | nil =>
    intro turns o h
    refine ⟨fun before t after heq => ?_, by rwa [Host.course, List.append_nil]⟩
    cases before <;> cases heq
  | cons visit visits ih =>
    obtain ⟨host, c⟩ := visit
    intro turns o h
    obtain ⟨hturned, -⟩ := turned_perform o host c
    obtain ⟨hproper, hafter⟩ := ih (hturned.after h)
    rw [List.append_assoc] at hafter
    refine ⟨fun before t after heq => ?_, hafter⟩
    cases before with
    | nil =>
      obtain ⟨rfl, -⟩ := List.cons.inj heq
      rw [List.append_nil]
      exact hturned.proper h
    | cons first before =>
      obtain ⟨rfl, hrest⟩ := List.cons.inj heq
      have hturn := hproper before t after hrest
      rwa [List.append_assoc] at hturn

/-- A call only adds to the log of the host. In every course of calls of a device that has just been opened,
whatever the host is when each of them is made, every turn is proper after those before it: without an
interface, nothing that needs one gets to the host; and an endpoint is opened if the call is for another one
than is kept, and not otherwise. At the end of it, what is held is what the turns tell, and no endpoint is
open without an interface. -/
theorem endpoints_course :
    (∀ (c : Call) (s : Seat), s.host.log <+: (perform c s).2.host.log) ∧
      ∀ (place : Nat) (visits : List (Host × Call)),
        let made := course { place } visits
        (∀ before t after, made.1 = before ++ t :: after → t.Proper before) ∧ made.2.After made.1 :=
  ⟨fun c s => (turned_perform s.opened s.host c).2,
    fun place visits => (Opened.after_nil place).course visits⟩

end Host

end Benchtop
