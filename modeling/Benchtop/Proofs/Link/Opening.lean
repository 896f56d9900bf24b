import Benchtop.Proofs.Link.Moves

/-!
# What opening and handing back do

Opening negotiates once the interface is claimed, and whatever comes of that, the device sees nothing
but traffic (`passes_negotiate`). So all that is chosen before stays as it was chosen: a link that
`establish` makes is the fresh one, up to what has been learned and done since
(`exists_fresh_of_establish`).

Handing back is moves, a release, and the return of the driver if there is one to be returned
(`handBack_apply`); no failure on the way leaves out a step.
-/

namespace Benchtop.Link

open Usb Wire

variable {σ : Type} {dev : Device σ} {link : Link}

/-! ## Traffic -/

/-- The device has seen control requests, transfers and clearings of a halt. -/
def Traffic (dev : Device σ) : σ → σ → Prop :=
  Relation.ReflTransGen fun s t => ∃ call : Call, call.isTraffic ∧ t = (dev.perform call s).2

/-- Two links of one claim. They may differ in what has been learned of the device since, and in
what links of one opening may differ in. -/
def SameClaim (a b : Link) : Prop :=
  { a with capabilities := b.capabilities, statusMode := b.statusMode }.SameOpening b

theorem SameOpening.sameClaim {a b : Link} (h : a.SameOpening b) : a.SameClaim b := by
  unfold SameClaim SameOpening at *
  rw [h]

theorem SameClaim.trans {a b d : Link} (h : a.SameClaim b) (h' : b.SameClaim d) :
    a.SameClaim d := by
  unfold SameClaim SameOpening at *
  rw [h', h]

theorem SameClaim.interface_eq {a b : Link} (h : a.SameClaim b) : b.interface = a.interface := by
  rw [h]

theorem SameClaim.driverDetached_eq {a b : Link} (h : a.SameClaim b) :
    b.driverDetached = a.driverDetached := by
  rw [h]

/-- An operation or a negotiation has passed. -/
structure Passes (dev : Device σ) (c c' : Connection σ) : Prop where
  traffic : Traffic dev c.device c'.device
  sameClaim : c.link.SameClaim c'.link

instance : Std.Refl (Passes dev) where
  refl _ := ⟨.refl, rfl⟩

instance : IsTrans (Connection σ) (Passes dev) where
  trans _ _ _ h h' := ⟨h.traffic.trans h'.traffic, h.sameClaim.trans h'.sameClaim⟩

theorem Moves.traffic {c c' : Connection σ} (h : Moves dev c c') :
    Traffic dev c.device c'.device := by
  induction h with
  | refl => exact .refl
  | tail _ hstep ih =>
    cases hstep with
    | note hn => exact ih.tail ⟨_, hn.asks.isTraffic, rfl⟩
    | forget => exact ih

theorem Moves.passes {c c' : Connection σ} (h : Moves dev c c') : Passes dev c c' :=
  ⟨h.traffic, h.sameOpening.sameClaim⟩

/-! ## Negotiation -/

/-- The request for what the device says of itself. -/
def capabilitiesCall (link : Link) : Call :=
  .controlIn (.toInterface Request.getCapabilities.code 0 link.interface) 24 link.timing.timeout

/-- The link to a device that has said what it can do. -/
def learned (link : Link) (capabilities : Capabilities) : Link :=
  { link with
    capabilities := capabilities
    statusMode := chooseStatusMode capabilities link.endpoints.interruptIn }

/-- Remote control is taken where there is such a thing, granted or not. -/
def takeRemote (dev : Device σ) (lockout : Bool) : Exchange σ Unit := do
  if (← get).link.capabilities.remoteLocal then
    try
      remoteControl dev true
      if lockout then localLockout dev
    catch _ => pure ()

/-- The requests that opening makes for remote control. -/
def RemoteRequest (r : Request) : Prop := r = .remoteEnable ∨ r = .localLockout

theorem not_forall_remoteRequest : ¬ ∀ r, RemoteRequest r := by
  intro h
  rcases h .indicatorPulse with h | h <;> cases h

theorem moves_takeRemote (lockout : Bool) :
    Respects (MovesFrom dev RemoteRequest link) (takeRemote dev lockout) := by
  refine moves_get_bind fun c _ => ?_
  split
  · refine Respects.tryCatch ?_ fun _ => respects_pure ()
    refine (moves_remoteControl (.inl rfl) true).bind fun _ => ?_
    split
    · exact moves_localLockout (.inr rfl)
    · exact respects_pure ()
  · exact respects_pure ()

theorem takeRemote_ok (dev : Device σ) (lockout : Bool) (c : Connection σ) :
    (takeRemote dev lockout c).1 = .ok () := by
  rw [takeRemote, get_bind_apply]
  by_cases h : c.link.capabilities.remoteLocal
  · rw [if_pos h, tryCatch_apply]
    split <;> rfl
  · rw [if_neg h]
    rfl

theorem negotiate_apply (usb488 lockout : Bool) (c : Connection σ) :
    negotiate dev usb488 lockout c =
      match attempt dev c.link.capabilitiesCall c with
      | (.error e, c') => (.error (.bus e), c')
      | (.ok bytes, c') =>
        match Capabilities.parse bytes usb488 with
        | .error e => (.error (.ofCapabilityError e), c')
        | .ok capabilities =>
          takeRemote dev lockout ⟨c'.link.learned capabilities, c'.device⟩ := by
  rw [negotiate, get_bind_apply, bind_apply, call]
  unfold capabilitiesCall
  rcases attempt dev (.controlIn (.toInterface Request.getCapabilities.code 0 c.link.interface) 24
    c.link.timing.timeout) c with ⟨e | bytes, c'⟩
  · rfl
  · simp only [mapError_ok]
    cases Capabilities.parse bytes usb488 <;> rfl

/-- The device has told its capabilities, and the link that has learned of them has asked for remote
control since. -/
def Learns (dev : Device σ) (usb488 : Bool) (c c' : Connection σ) : Prop :=
  ∃ bytes capabilities,
    (dev.perform c.link.capabilitiesCall c.device).1 = .ok bytes ∧
    Capabilities.parse bytes usb488 = .ok capabilities ∧
    MovesFor dev RemoteRequest
      ⟨c.link.learned capabilities, (dev.perform c.link.capabilitiesCall c.device).2⟩ c'

/-- A negotiation is one request, and the rest if that tells the capabilities. -/
theorem negotiate_cases (dev : Device σ) (usb488 lockout : Bool) (c : Connection σ) :
    (∃ e, negotiate dev usb488 lockout c =
        (.error e, ⟨c.link, (dev.perform c.link.capabilitiesCall c.device).2⟩)) ∨
      ∃ c', negotiate dev usb488 lockout c = (.ok (), c') ∧ Learns dev usb488 c c' := by
  rw [negotiate_apply, attempt]
  rcases hasked : dev.perform c.link.capabilitiesCall c.device with ⟨e | bytes, s⟩
  · exact .inl ⟨_, rfl⟩
  · dsimp only
    rcases hparse : Capabilities.parse bytes usb488 with e | capabilities
    · exact .inl ⟨.ofCapabilityError e, rfl⟩
    · have hok := takeRemote_ok dev lockout ⟨c.link.learned capabilities, s⟩
      have hm : MovesFor dev RemoteRequest _ _ :=
        respects_movesFor (fun _ => moves_takeRemote lockout) ⟨c.link.learned capabilities, s⟩
      exact .inr ⟨(takeRemote dev lockout ⟨c.link.learned capabilities, s⟩).2, Prod.ext hok rfl,
        bytes, capabilities, by rw [hasked], hparse, by rwa [hasked]⟩

/-- A negotiation, successful or not, is moves and the entry of what it has learned. -/
theorem respects_negotiate {r : Connection σ → Connection σ → Prop} [Std.Refl r]
    [IsTrans (Connection σ) r] (hmoves : ∀ c c', Moves dev c c' → r c c')
    (hlearn : ∀ c capabilities statusMode,
      r c { c with link.capabilities := capabilities, link.statusMode := statusMode })
    (usb488 lockout : Bool) : Respects r (negotiate dev usb488 lockout) := by
  intro c
  have hasked : r c ⟨c.link, (dev.perform c.link.capabilitiesCall c.device).2⟩ :=
    hmoves _ _ (.single (.note (.call rfl .capabilities _)))
  rcases negotiate_cases dev usb488 lockout c with ⟨e, h⟩ | ⟨c', h, hl⟩
  · rwa [h]
  · obtain ⟨bytes, capabilities, -, -, hm⟩ := hl
    rw [h]
    exact trans_of r (trans_of r hasked (hlearn _ _ _)) (hmoves _ _ hm.moves)

/-- A negotiation, successful or not, passes. -/
theorem passes_negotiate (usb488 lockout : Bool) :
    Respects (Passes dev) (negotiate dev usb488 lockout) :=
  respects_negotiate (fun _ _ => Moves.passes) (fun _ _ _ => ⟨.refl, rfl⟩) usb488 lockout

/-! ## Opening -/

/-- A configuration is chosen by what the device describes, and set at most. -/
theorem respects_chooseConfiguration {r : σ → σ → Prop} [Std.Refl r] [IsTrans σ r]
    (h : ∀ value, Respects r (dev.call (.setConfiguration value))) (force : Bool) :
    Respects r (chooseConfiguration dev force) := by
  refine respects_get.bind fun s => ?_
  extract_lets configurations active found
  have hfound (value : UInt8) : Respects r (found value) := by
    dsimp only [found]
    split
    · exact respects_pure _
    · exact respects_throw _
  clear_value found
  dsimp only [active]
  split
  · exact (respects_pure _).bind hfound
  · split
    · exact respects_throw_bind _ _
    · next value _ => exact (h value).bind fun _ => (respects_pure value).bind hfound

/-- The configuration is one that the device describes. -/
theorem ensures_chooseConfiguration (dev : Device σ) (force : Bool) (s : σ) :
    Ensures (fun t => t = s) (chooseConfiguration dev force)
      (fun configuration _ => configuration ∈ dev.configurations s) fun _ _ => True := by
  refine Ensures.bind (q := fun c _ => c = s) (fun _ h => h) fun c => ?_
  suffices h : c = s → Ensures (fun _ => True) _ _ _ from fun t hc => h hc t trivial
  rintro rfl
  extract_lets configurations active found
  have hfound (value : UInt8) : Ensures (fun _ => True) (found value)
      (fun configuration _ => configuration ∈ configurations) fun _ _ => True := by
    dsimp only [found]
    split
    · next hfind => exact ensures_pure fun _ _ => List.mem_of_find?_eq_some hfind
    · exact ensures_throw fun _ _ => trivial
  clear_value found
  have hcall (value : UInt8) : Ensures (fun _ => True) (dev.call (.setConfiguration value))
      (fun _ _ => True) fun _ _ => True := by
    intro t _
    split <;> trivial
  dsimp only [active]
  split
  · exact Ensures.bind (ensures_pure fun _ _ => trivial) hfound
  · split
    · exact ensures_throw_bind fun _ _ => trivial
    · next value _ =>
      exact (hcall value).bind fun _ => Ensures.bind (ensures_pure fun _ _ => trivial) hfound

/-- A claim is one call, and one more if it fails. -/
theorem respects_claim {r : σ → σ → Prop} [IsTrans σ r] {interface : Interface}
    (hclaim : Respects r (dev.call (.claim interface.number interface.alternate)))
    (hattach : Respects r (dev.call (.attachDriver interface.number))) (detached : Bool) :
    Respects r (claim dev interface detached) := by
  intro s
  have hs := hclaim s
  unfold Device.call at hs
  unfold claim
  generalize dev.perform _ s = claimed at *
  rcases claimed with ⟨e | _, t⟩
  · dsimp only
    split
    · exact trans_of r hs (hattach t)
    · exact hs
  · exact hs

theorem settle_apply (link : Link) (usb488 lockout : Bool) (s : σ) :
    settle dev link usb488 lockout s =
      match negotiate dev usb488 lockout ⟨link, s⟩ with
      | (.ok (), c) => (.ok c.link, c.device)
      | (.error e, c) => (.error e, (handBack dev c).2.device) :=
  rfl

/-- A link is settled, or handed back, after the negotiation. -/
theorem exists_passes_of_settle (dev : Device σ) (link : Link) (usb488 lockout : Bool) (s : σ) :
    ∃ c, Passes dev ⟨link, s⟩ c ∧
      (settle dev link usb488 lockout s = (.ok c.link, c.device) ∨
        ∃ e, settle dev link usb488 lockout s = (.error e, (handBack dev c).2.device)) := by
  refine ⟨(negotiate dev usb488 lockout ⟨link, s⟩).2, passes_negotiate usb488 lockout _, ?_⟩
  rw [settle_apply]
  rcases negotiate dev usb488 lockout ⟨link, s⟩ with ⟨e | _, c⟩
  · exact .inr ⟨e, rfl⟩
  · exact .inl rfl

/-- A link is settled if the device tells its capabilities, and handed back as it is otherwise. -/
theorem settle_cases (dev : Device σ) (link : Link) (usb488 lockout : Bool) (s : σ) :
    (∃ e, settle dev link usb488 lockout s =
        (.error e, (handBack dev ⟨link, (dev.perform link.capabilitiesCall s).2⟩).2.device)) ∨
      ∃ c, settle dev link usb488 lockout s = (.ok c.link, c.device) ∧
        Learns dev usb488 ⟨link, s⟩ c := by
  rw [settle_apply]
  rcases negotiate_cases dev usb488 lockout ⟨link, s⟩ with ⟨e, h⟩ | ⟨c, h, hl⟩
  · exact .inl ⟨e, by rw [h]⟩
  · exact .inr ⟨c, by rw [h], hl⟩

/-- A link that has been made is a fresh one, settled. -/
theorem exists_fresh_of_establish {info : DeviceInfo} {settings : Settings} {link : Link} {s t : σ}
    (h : establish dev info settings s = (.ok link, t)) :
    ∃ interface endpoints detached,
      (fresh info settings interface endpoints detached).SameClaim link := by
  obtain ⟨configuration, s₁, -, h⟩ := exists_of_bind_eq_ok h
  obtain ⟨interface, s₂, -, h⟩ := exists_of_bind_eq_ok h
  obtain ⟨endpoints, s₃, -, h⟩ := exists_of_bind_eq_ok h
  obtain ⟨detached, s₄, -, h⟩ := exists_of_bind_eq_ok h
  obtain ⟨_, s₅, -, h⟩ := exists_of_bind_eq_ok h
  refine ⟨interface, endpoints, detached, ?_⟩
  obtain ⟨c, hc, hs | ⟨e, hs⟩⟩ := exists_passes_of_settle dev
    (fresh info settings interface endpoints detached) (interface.protocol == usb488Protocol)
    settings.localLockout s₅
  · obtain rfl : c.link = link := by
      rw [hs] at h
      cases h
      rfl
    exact hc.sameClaim
  · rw [hs] at h
    cases h

/-- The device has seen no traffic. -/
def Untouched (dev : Device σ) (s t : σ) : Prop :=
  ∃ events, dev.Trace s events t ∧ ∀ e ∈ events, ¬ e.call.isTraffic

instance : Std.Refl (Untouched dev) where
  refl _ := ⟨[], rfl, nofun⟩

instance : IsTrans σ (Untouched dev) where
  trans _ _ _ := by
    rintro ⟨events, ht, he⟩ ⟨events', ht', he'⟩
    exact ⟨events ++ events', ht.append ht', List.forall_mem_append.2 ⟨he, he'⟩⟩

theorem untouched_call (call : Call) (h : ¬ call.isTraffic) :
    Respects (Untouched dev) (dev.call call) :=
  fun s => ⟨_, dev.trace_perform call s, List.forall_mem_singleton.2 h⟩

/-- The calls that a link was made by: no traffic, the query for the capabilities, and what the link has
noted since. -/
def MadeBy (info : DeviceInfo) (settings : Settings) (link : Link) (events : List Event) : Prop :=
  ∃ before interface endpoints detached bytes capabilities after,
    events = before ++
      ⟨(fresh info settings interface endpoints detached).capabilitiesCall, .ok bytes⟩ :: after ∧
    (∀ e ∈ before, ¬ e.call.isTraffic) ∧
    NotesAll RemoteRequest
      ((fresh info settings interface endpoints detached).learned capabilities) after link

/-- A link that has been made was made by the calls that the device has seen. -/
theorem exists_madeBy_of_establish {info : DeviceInfo} {settings : Settings} {link : Link} {s t : σ}
    (h : establish dev info settings s = (.ok link, t)) :
    ∃ events, dev.Trace s events t ∧ MadeBy info settings link events := by
  have hkeep {α : Type} {x : Action σ α} (hx : Respects (Untouched dev) x) {s t : σ} {a : α}
      (h : x s = (.ok a, t)) : Untouched dev s t := by
    have hs := hx s
    rwa [h] at hs
  obtain ⟨configuration, s₁, hconfiguration, h⟩ := exists_of_bind_eq_ok h
  obtain ⟨interface, s₂, hinterface, h⟩ := exists_of_bind_eq_ok h
  obtain ⟨endpoints, s₃, hendpoints, h⟩ := exists_of_bind_eq_ok h
  obtain ⟨detached, s₄, hdetached, h⟩ := exists_of_bind_eq_ok h
  obtain ⟨_, s₅, hclaim, h⟩ := exists_of_bind_eq_ok h
  have hchosen : Untouched dev s s₁ := hkeep
    (respects_chooseConfiguration (fun value => untouched_call (.setConfiguration value) nofun) _)
    hconfiguration
  have hclaimed : Untouched dev s₄ s₅ := hkeep
    (respects_claim (untouched_call (.claim interface.number interface.alternate) nofun)
      (untouched_call (.attachDriver interface.number) nofun) _) hclaim
  have hbefore : Untouched dev s s₅ :=
    trans_of _ hchosen (trans_of _ (hkeep (respects_ofExcept _) hinterface)
      (trans_of _ (hkeep (respects_ofExcept _) hendpoints)
        (trans_of _ (hkeep (untouched_call (.detachDriver interface.number) nofun) hdetached)
          hclaimed)))
  obtain ⟨before, ht, huntouched⟩ := hbefore
  rcases settle_cases dev (fresh info settings interface endpoints detached)
    (interface.protocol == usb488Protocol) settings.localLockout s₅ with ⟨e, hs⟩ | ⟨c, hs, hl⟩
  · rw [hs] at h
    cases h
  · rw [hs] at h
    cases h
    obtain ⟨bytes, capabilities, hanswer, -, hm⟩ := hl
    obtain ⟨after, hafter, hnotes⟩ := hm.exists_notes not_forall_remoteRequest
    have hasked := dev.trace_perform
      (fresh info settings interface endpoints detached).capabilitiesCall s₅
    rw [hanswer] at hasked
    exact ⟨_, ht.append (hasked.append hafter), before, interface, endpoints, detached, bytes,
      capabilities, after, rfl, huntouched, hnotes⟩

/-! ## Handing back -/

/-- A step of handing back does what its action does, succeed or fail. -/
theorem step_apply (failed : Option Failure) (action : Exchange σ Unit) (c : Connection σ) :
    (step failed action c).2 = (action c).2 := by
  simp only [step, Action.outcome, bind, StateT.bind, ExceptT.run]
  rcases action c with ⟨_ | _, c'⟩ <;> rfl

theorem moves_step {wants : Request → Prop} (failed : Option Failure) {action : Exchange σ Unit}
    (h : Respects (MovesFrom dev wants link) action) :
    Respects (MovesFrom dev wants link) (step failed action) := by
  intro c
  rw [step_apply]
  exact h c

theorem moves_leaveRemote (failed : Option Failure) :
    Respects (MovesFrom dev (fun _ => True) link) (leaveRemote dev failed) := by
  refine moves_get_seq fun c _ => ?_
  split
  · refine (moves_step failed (moves_goToLocal trivial)).seq fun failed => ?_
    refine (moves_step failed (moves_remoteControl trivial false)).seq fun failed => ?_
    exact Respects.seq (fun c _ => .single (.forget c false c.link.locked fun _ => trivial))
      fun _ => respects_skip failed
  · exact respects_skip failed

theorem moves_leaveLocked (failed : Option Failure) :
    Respects (MovesFrom dev (fun _ => True) link) (leaveLocked dev failed) := by
  refine moves_get_seq fun c _ => ?_
  split
  · refine (moves_step failed (moves_unlock trivial)).seq fun failed => ?_
    exact Respects.seq (fun c _ => .single (.forget c c.link.remote false fun _ => trivial))
      fun _ => respects_skip failed
  · exact respects_skip failed

/-- What the return of the driver does to the device. -/
theorem reattach_apply (failed : Option Failure) (c : Connection σ) :
    (reattach dev failed c).2.device =
      if c.link.driverDetached then (dev.perform (.attachDriver c.link.interface) c.device).2
      else c.device := by
  change (if c.link.driverDetached then _ else _ : StateM (Connection σ) _) c |>.2.device = _
  cases c.link.driverDetached with
  | false => rfl
  | true =>
    change (step failed (call dev (.attachDriver c.link.interface)) c).2.device = _
    rw [step_apply]
    rfl

theorem handBack_apply (c : Connection σ) :
    handBack dev c =
      let remote := leaveRemote dev none c
      let unlocked := leaveLocked dev remote.1 remote.2
      let released := step unlocked.1 (call dev (.release unlocked.2.link.interface)) unlocked.2
      reattach dev released.1 released.2 :=
  rfl

/-- Handing back is moves, the release, and the return of a detached driver. -/
theorem exists_moves_of_handBack (dev : Device σ) (c : Connection σ) :
    ∃ c', Moves dev c c' ∧
      (handBack dev c).2.device =
        let released := (dev.perform (.release c.link.interface) c'.device).2
        if c.link.driverDetached then (dev.perform (.attachDriver c.link.interface) released).2
        else released := by
  rw [handBack_apply]
  dsimp only
  have hremote : Moves dev c (leaveRemote dev none c).2 :=
    respects_moves (fun _ => moves_leaveRemote none) c
  generalize leaveRemote dev none c = remote at *
  have hlocked : Moves dev remote.2 (leaveLocked dev remote.1 remote.2).2 :=
    respects_moves (fun _ => moves_leaveLocked remote.1) remote.2
  generalize leaveLocked dev remote.1 remote.2 = unlocked at *
  have hm : Moves dev c unlocked.2 := hremote.trans hlocked
  have hclaim := hm.sameOpening.sameClaim
  refine ⟨unlocked.2, hm, ?_⟩
  rw [reattach_apply, step_apply, ← hclaim.interface_eq, ← hclaim.driverDetached_eq]
  rfl

end Benchtop.Link
