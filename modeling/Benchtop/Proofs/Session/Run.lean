import Benchtop.Proofs.Link.Opening
import Benchtop.Session

/-!
# Runs of a session

All that a session does comes down to four steps: it is opened, it is closed, its timeout is set, or
its link makes moves (`Step`). An operation of the link makes moves for its own requests and for no
others (`works_perform`). Every operation, succeed or fail, is a chain of steps (`steps_perform`), and
so is every run (`steps_run`). `Reachable` are the benches that runs come to, from a closed session on
a bus in any state; what holds of a closed session and survives each of the four steps holds of all of
them (`Reachable.induction`).
-/

namespace Benchtop.Session

open Usb Wire

variable {σ : Type} {bus : Bus σ}

/-! ## Steps -/

/-- One step of a session. -/
inductive Step (bus : Bus σ) : Bench σ → Bench σ → Prop
  | openUp (b : Bench σ) : Step bus b (openUp bus b).2
  | close (b : Bench σ) : Step bus b (close bus b).2
  | setTimeout (b : Bench σ) (timeout : Duration) :
    Step bus b { b with session := b.session.setTimeout timeout }
  | operate {b : Bench σ} {opened : OpenedDevice} {c : Connection σ}
    (ho : b.session.opened = some opened)
    (hm : Link.Moves (bus.device opened.handle) ⟨opened.link, b.bus⟩ c) :
    Step bus b ⟨{ b.session with opened := some { opened with link := c.link } }, c.device⟩

/-- Steps of a session, one after the other. -/
abbrev Steps (bus : Bus σ) : Bench σ → Bench σ → Prop := Relation.ReflTransGen (Step bus)

/-- What an action on the link of an open session does. -/
theorem onLink_apply {α : Type} {b : Bench σ} {opened : OpenedDevice}
    (ho : b.session.opened = some opened) (action : Device σ → Exchange σ α) :
    onLink bus action b =
      let made := action (bus.device opened.handle) ⟨opened.link, b.bus⟩
      (made.1, ⟨{ b.session with opened := some { opened with link := made.2.link } },
        made.2.device⟩) := by
  unfold onLink
  rw [ho]
  rfl

/-- An operation that succeeds has been made on the link of an open session. -/
theorem exists_of_onLink_eq_ok {α : Type} {action : Device σ → Exchange σ α} {b b' : Bench σ}
    {a : α} (h : onLink bus action b = (.ok a, b')) :
    ∃ (opened : OpenedDevice) (c : Connection σ),
      action (bus.device opened.handle) ⟨opened.link, b.bus⟩ = (.ok a, c) ∧
      b' = ⟨{ b.session with opened := some { opened with link := c.link } }, c.device⟩ := by
  unfold onLink at h
  split at h
  · cases h
  · next opened _ =>
    rcases hr : action (bus.device opened.handle) ⟨opened.link, b.bus⟩ with ⟨_ | _, c⟩ <;>
      rw [hr] at h
    · cases h
    · cases h
      exact ⟨opened, c, hr, rfl⟩

/-! ## Operations of the link -/

/-- What an operation of the link does to a bench: nothing if the session is closed, and otherwise moves
for these requests. -/
inductive Works (bus : Bus σ) (wants : Request → Prop) (b : Bench σ) : Bench σ → Prop
  | closed (ho : b.session.opened = none) : Works bus wants b b
  | opened {opened : OpenedDevice} {c : Connection σ} (ho : b.session.opened = some opened)
    (hm : Link.MovesFor (bus.device opened.handle) wants ⟨opened.link, b.bus⟩ c) :
    Works bus wants b ⟨{ b.session with opened := some { opened with link := c.link } }, c.device⟩

section

variable {wants : Request → Prop}

instance : Std.Refl (Works bus wants) where
  refl b := by
    rcases ho : b.session.opened with _ | opened
    · exact .closed ho
    · have h : Works bus wants b _ := .opened ho .refl
      rwa [← ho] at h

instance : IsTrans (Bench σ) (Works bus wants) where
  trans b b' b'' h h' := by
    cases h with
    | closed ho => exact h'
    | opened ho hm =>
      cases h' with
      | closed ho' => cases ho'
      | opened ho' hm' =>
        cases ho'
        have hboth : Works bus wants b _ := .opened ho (hm.trans hm')
        exact hboth

theorem Works.steps {b b' : Bench σ} (h : Works bus wants b b') : Steps bus b b' := by
  cases h with
  | closed => exact .refl
  | opened ho hm => exact .single (.operate ho hm.moves)

theorem works_onLink {α : Type} {action : Device σ → Exchange σ α}
    (h : ∀ dev link, Respects (Link.MovesFrom dev wants link) (action dev)) :
    Respects (Works bus wants) (onLink bus action) := by
  intro b
  unfold onLink
  split
  · next ho => exact .closed ho
  · next opened ho => exact .opened ho (Link.respects_movesFor (h _) _)

theorem works_writeRaw (data : List UInt8) : Respects (Works bus wants) (writeRaw bus data) :=
  works_onLink fun _ _ => Link.moves_writeMessage data

theorem works_readRaw : Respects (Works bus wants) (readRaw bus) :=
  works_onLink fun _ _ => Link.moves_readMessage

theorem works_read : Respects (Works bus wants) (read bus) :=
  works_readRaw.bind fun _ => respects_pure _

theorem works_ask (text : String) : Respects (Works bus wants) (ask bus text) :=
  (works_writeRaw _).bind fun _ => works_read

end

/-- The operations that are made of the link. -/
def Operation.usesLink : Operation → Bool
  | .openUp | .close | .setTimeout _ | .drop => false
  | _ => true

/-- The requests that an operation of the link is made for, of those that are answered by a status. -/
def Operation.wants : Operation → Request → Prop
  | .pulse => fun r => r = .indicatorPulse
  | .remoteControl _ => fun r => r = .remoteEnable
  | .goToLocal => fun r => r = .goToLocal
  | .localLockout => fun r => r = .localLockout
  | .lock | .unlock => fun r => r = .frontPanelLock
  | _ => fun _ => False

/-- The requests that an operation is made for, that for the status byte among them. -/
def Operation.makes : Operation → Request → Prop
  | .readStatusByte => fun r => r = .readStatusByte
  | operation => operation.wants

/-- An operation of the link, succeed or fail, makes no moves but for its requests. -/
theorem works_perform {operation : Operation} (h : operation.usesLink) :
    Respects (Works bus operation.makes) (operation.perform bus) := by
  cases operation with
  | openUp => cases h
  | close => cases h
  | setTimeout => cases h
  | drop => cases h
  | write text => exact (works_writeRaw _).bind fun _ => respects_pure _
  | writeRaw data => exact (works_writeRaw _).bind fun _ => respects_pure _
  | read => exact works_read.bind fun _ => respects_pure _
  | readRaw => exact works_readRaw.bind fun _ => respects_pure _
  | ask text => exact (works_ask text).bind fun _ => respects_pure _
  | askRaw data =>
    exact ((works_writeRaw _).bind fun _ => works_readRaw).bind fun _ => respects_pure _
  | askMany texts => exact (Respects.mapM works_ask texts).bind fun _ => respects_pure _
  | readStatusByte =>
    have hmakes : Operation.readStatusByte.makes .readStatusByte := rfl
    exact (works_onLink fun _ _ => Link.moves_readStatusByte hmakes).bind fun _ => respects_pure _
  | clear => exact (works_onLink fun _ _ => Link.moves_clear).bind fun _ => respects_pure _
  | trigger => exact (works_onLink fun _ _ => Link.moves_trigger).bind fun _ => respects_pure _
  | pulse =>
    have hmakes : Operation.pulse.makes .indicatorPulse := rfl
    exact (works_onLink fun _ _ => Link.moves_pulse hmakes).bind fun _ => respects_pure _
  | remoteControl enable =>
    have hmakes : (Operation.remoteControl enable).makes .remoteEnable := rfl
    exact (works_onLink fun _ _ => Link.moves_remoteControl hmakes enable).bind fun _ =>
      respects_pure _
  | goToLocal =>
    have hmakes : Operation.goToLocal.makes .goToLocal := rfl
    exact (works_onLink fun _ _ => Link.moves_goToLocal hmakes).bind fun _ => respects_pure _
  | localLockout =>
    have hmakes : Operation.localLockout.makes .localLockout := rfl
    exact (works_onLink fun _ _ => Link.moves_localLockout hmakes).bind fun _ => respects_pure _
  | lock =>
    have hmakes : Operation.lock.makes .frontPanelLock := rfl
    exact (works_onLink fun _ _ => Link.moves_lock hmakes).bind fun _ => respects_pure _
  | unlock =>
    have hmakes : Operation.unlock.makes .frontPanelLock := rfl
    exact (works_onLink fun _ _ => Link.moves_unlock hmakes).bind fun _ => respects_pure _
  | readVendorId =>
    exact (works_onLink fun _ _ => Link.moves_readVendorId).bind fun _ => respects_pure _

/-- An operation of an open session makes moves for its requests. -/
theorem exists_movesFor_of_perform (bus : Bus σ) {b : Bench σ} {opened : OpenedDevice}
    (ho : b.session.opened = some opened) {operation : Operation} (h : operation.usesLink) :
    ∃ c, Link.MovesFor (bus.device opened.handle) operation.makes ⟨opened.link, b.bus⟩ c ∧
      (operation.perform bus b).2 =
        ⟨{ b.session with opened := some { opened with link := c.link } }, c.device⟩ := by
  have hworks : Works bus operation.makes b (operation.perform bus b).2 := works_perform h b
  generalize (operation.perform bus b).2 = b' at hworks
  cases hworks with
  | closed hnone =>
    rw [hnone] at ho
    cases ho
  | opened ho' hm =>
    obtain rfl := Option.some.inj (ho.symm.trans ho')
    exact ⟨_, hm, rfl⟩

/-- No other operation makes the request for the status byte. -/
theorem Operation.not_makes_readStatusByte {operation : Operation} (h : operation ≠ .readStatusByte) :
    ¬ operation.makes .readStatusByte := by
  intro hmakes
  cases operation <;> first | exact h rfl | cases hmakes

/-- No operation is made for every request. -/
theorem Operation.not_forall_makes (operation : Operation) : ¬ ∀ r, operation.makes r := by
  intro h
  have hquery := h .getCapabilities
  cases operation <;> cases hquery

/-! ## Chains of steps -/

/-- An operation, succeed or fail, is a chain of steps. -/
theorem steps_perform (operation : Operation) :
    Respects (Steps bus) (operation.perform bus) := by
  by_cases h : operation.usesLink
  · exact (works_perform h).mono fun _ _ => Works.steps
  · cases operation with
    | openUp => exact Respects.bind (fun b => .single (.openUp b)) fun _ => respects_pure _
    | close => exact Respects.bind (fun b => .single (.close b)) fun _ => respects_pure _
    | setTimeout timeout =>
      exact Respects.bind (fun b => .single (.setTimeout b timeout)) fun _ => respects_pure _
    | drop =>
      exact Respects.bind (respects_lift fun b => .single (.close b)) fun _ => respects_pure _
    | _ => exact absurd rfl h

/-- A run is a chain of steps. -/
theorem steps_run (operations : List Operation) : Respects (Steps bus) (run bus operations) := by
  induction operations with
  | nil => exact fun _ => .refl
  | cons operation operations ih =>
    exact Respects.seq ((steps_perform operation).seq fun _ => respects_skip _) fun _ => ih

/-! ## Opening and closing -/

/-- What opening a session does. -/
theorem openUp_apply (b : Bench σ) :
    openUp bus b =
      if b.session.isOpen then (.ok (), b)
      else
        match resolve bus b.session.resource b.bus with
        | (.error e, s) => (.error e, { b with bus := s })
        | (.ok info, s) =>
          match openLink bus info b.session.settings s with
          | (.error e, s) => (.error e, { b with bus := s })
          | (.ok opened, s) => (.ok (), ⟨{ b.session with opened := some opened }, s⟩) := by
  rw [openUp, get_bind_apply]
  split
  · rfl
  · rw [bind_apply, onBus]
    rcases resolve bus b.session.resource b.bus with ⟨e | info, s⟩
    · rfl
    · simp only [bind_apply, onBus]
      rcases openLink bus info b.session.settings s with ⟨e | opened, s⟩ <;> rfl

/-- What opening a link does: the device is let go of if no link is made. -/
theorem openLink_apply (info : DeviceInfo) (settings : Settings) (s : σ) :
    openLink bus info settings s =
      match bus.openDevice info s with
      | (.error e, s) => (.error (.bus e), s)
      | (.ok handle, s) =>
        match Link.establish (bus.device handle) info settings s with
        | (.ok link, s) => (.ok ⟨handle, link⟩, s)
        | (.error e, s) => (.error e, bus.letGo handle s) :=
  rfl

/-- What a device is found by. -/
theorem respects_resolve {r : σ → σ → Prop} [Std.Refl r] [IsTrans σ r]
    (h : ∀ s, r s (bus.enumerate s).2) (resource : Resource) : Respects r (resolve bus resource) := by
  refine (respects_ofExcept _).bind fun selector => ?_
  split
  · exact respects_pure _
  · exact Respects.bind (fun s => h s) fun _ => respects_ofExcept _

/-- A session with a device that has been enumerated opens that device. -/
theorem openUp_attached (info : DeviceInfo) (settings : Settings) (s : σ) :
    let session : Session := { resource := .attached info, settings }
    openUp bus ⟨session, s⟩ =
      match openLink bus info settings s with
      | (.error e, t) => (.error e, ⟨session, t⟩)
      | (.ok opened, t) => (.ok (), ⟨{ session with opened := some opened }, t⟩) := by
  intro session
  rw [openUp_apply]
  rfl

/-- What every step of opening a device respects, opening it does. -/
theorem respects_openLink {r : σ → σ → Prop} [IsTrans σ r] {info : DeviceInfo} {settings : Settings}
    (hopen : ∀ s, r s (bus.openDevice info s).2)
    (hmake : ∀ number, Respects r (Link.establish (bus.device number) info settings))
    (hletGo : ∀ number s, r s (bus.letGo number s)) : Respects r (openLink bus info settings) := by
  intro s
  have hs := hopen s
  rw [openLink_apply]
  generalize bus.openDevice info s = found at *
  rcases found with ⟨e | number, t⟩
  · exact hs
  · have ht := hmake number t
    dsimp only
    generalize Link.establish (bus.device number) info settings t = made at *
    rcases made with ⟨e | link, u⟩
    · exact trans_of r (trans_of r hs ht) (hletGo number u)
    · exact trans_of r hs ht

/-- A link is opened in two steps: a device is opened, and then its link is made or the device is let
go of. -/
theorem ensures_openLink_of {info : DeviceInfo} {settings : Settings} {closed : σ → Prop}
    {begun : Nat → σ → Prop} {opened : OpenedDevice → σ → Prop}
    (hopen : ∀ s, closed s →
      match bus.openDevice info s with
      | (.error _, t) => closed t
      | (.ok handle, t) => begun handle t)
    (hmake : ∀ handle, Ensures (begun handle) (Link.establish (bus.device handle) info settings)
      (fun link => opened ⟨handle, link⟩) fun _ s => closed (bus.letGo handle s)) :
    Ensures closed (openLink bus info settings) opened fun _ => closed := by
  intro s hs
  have hopened := hopen s hs
  rw [openLink_apply]
  generalize bus.openDevice info s = found at *
  rcases found with ⟨e | handle, t⟩
  · exact hopened
  · have hmade := hmake handle t hopened
    dsimp only
    generalize Link.establish (bus.device handle) info settings t = made at *
    rcases made with ⟨e | link, u⟩ <;> exact hmade

/-- A closed session that has been opened found a device and made a link to it. -/
theorem exists_of_opened_openUp {b : Bench σ} {opened : OpenedDevice} (hnone : b.session.opened = none)
    (ho : (openUp bus b).2.session.opened = some opened) :
    ∃ info s t, resolve bus b.session.resource b.bus = (.ok info, s) ∧
      openLink bus info b.session.settings s = (.ok opened, t) ∧
      (openUp bus b).2 = ⟨{ b.session with opened := some opened }, t⟩ := by
  rw [openUp_apply, if_neg (by simp [isOpen, hnone])] at ho ⊢
  rcases hfound : resolve bus b.session.resource b.bus with ⟨e | info, s⟩ <;> rw [hfound] at ho
  · dsimp only at ho
    rw [hnone] at ho
    cases ho
  · dsimp only at ho ⊢
    rcases hmade : openLink bus info b.session.settings s with ⟨e | made, t⟩ <;> rw [hmade] at ho
    · dsimp only at ho
      rw [hnone] at ho
      cases ho
    · cases ho
      exact ⟨info, s, t, rfl, hmade, rfl⟩

/-- Opening leaves the session as it is, or enters the link that was made. -/
theorem session_openUp (b : Bench σ) :
    (openUp bus b).2.session = b.session ∨
      ∃ info handle link s t,
        Link.establish (bus.device handle) info b.session.settings s = (.ok link, t) ∧
          (openUp bus b).2.session = { b.session with opened := some ⟨handle, link⟩ } := by
  rw [openUp_apply]
  split
  · exact .inl rfl
  · split
    · exact .inl rfl
    · next info s _ =>
      rw [openLink_apply]
      rcases bus.openDevice info s with ⟨e | handle, s⟩
      · exact .inl rfl
      · match h : Link.establish (bus.device handle) info b.session.settings s with
        | (.error e, t) => exact .inl (by simp only [h])
        | (.ok link, t) => exact .inr ⟨info, handle, link, s, t, h, by simp only [h]⟩

/-- Where closing leads, whatever failure it reports. -/
theorem close_apply (b : Bench σ) :
    (close bus b).2 =
      match b.session.opened with
      | none => b
      | some opened =>
        ⟨{ b.session with opened := none },
          bus.letGo opened.handle
            (Link.handBack (bus.device opened.handle) ⟨opened.link, b.bus⟩).2.device⟩ := by
  unfold close
  cases b.session.opened with
  | none => rfl
  | some opened =>
    dsimp only
    generalize Link.handBack (bus.device opened.handle) ⟨opened.link, b.bus⟩ = handed
    rcases handed with ⟨_ | e, c⟩ <;> rfl

theorem session_close (b : Bench σ) :
    (close bus b).2.session = { b.session with opened := none } := by
  rw [close_apply]
  split
  · next ho => rw [← ho]
  · rfl

theorem run_append (operations operations' : List Operation) (b : Bench σ) :
    run bus (operations ++ operations') b = run bus operations' (run bus operations b).2 := by
  induction operations generalizing b with
  | nil => rfl
  | cons operation operations ih => exact ih (operation.perform bus b).2

/-- A run that ends with the session let go of leaves it closed. -/
theorem opened_run_drop (operations : List Operation) (b : Bench σ) :
    (run bus (operations ++ [.drop]) b).2.session.opened = none := by
  rw [run_append]
  change (Session.close bus (run bus operations b).2).2.session.opened = none
  rw [session_close]

/-! ## What lasts -/

/-- `closed` holds of the bus while the session is closed, and `opened` of the device and the bus while
it is open. The settings are the same, but for the timeout. -/
structure During (settings : Settings) (closed : σ → Prop) (opened : OpenedDevice → σ → Prop)
    (b : Bench σ) : Prop where
  settings_eq : ∃ timeoutMs, b.session.settings = { settings with timeoutMs }
  holds :
    match b.session.opened with
    | none => closed b.bus
    | some device => opened device b.bus

namespace During

variable {settings : Settings} {closed : σ → Prop} {opened : OpenedDevice → σ → Prop} {b : Bench σ}

theorem of_closed (h : During settings closed opened b) (ho : b.session.opened = none) :
    closed b.bus := by
  have := h.holds
  rwa [ho] at this

theorem of_opened (h : During settings closed opened b) {device : OpenedDevice}
    (ho : b.session.opened = some device) : opened device b.bus := by
  have := h.holds
  rwa [ho] at this

end During

/-- What opening a link, each step of an operation and closing do to two properties, of a closed session
and of an open one. -/
structure Lasts (bus : Bus σ) (settings : Settings) (closed : σ → Prop)
    (opened : OpenedDevice → σ → Prop) : Prop where
  resolve : ∀ resource, Respects (Preserves closed) (resolve bus resource)
  openLink : ∀ info timeoutMs,
    Ensures closed (openLink bus info { settings with timeoutMs }) opened fun _ => closed
  setTimeout : ∀ {device s}, opened device s → ∀ timeout,
    opened { device with link.timing.timeout := timeout } s
  operate : ∀ {device s c}, opened device s →
    Link.Moves (bus.device device.handle) ⟨device.link, s⟩ c →
      opened { device with link := c.link } c.device
  close : ∀ {device s}, opened device s →
    closed (bus.letGo device.handle
      (Link.handBack (bus.device device.handle) ⟨device.link, s⟩).2.device)

namespace Lasts

variable {settings : Settings} {closed : σ → Prop} {opened : OpenedDevice → σ → Prop} {b : Bench σ}

theorem during_openUp (h : Lasts bus settings closed opened) (hb : During settings closed opened b) :
    During settings closed opened (openUp bus b).2 := by
  rw [openUp_apply]
  split
  · exact hb
  · next hclosed =>
    have hnone : b.session.opened = none := by simpa [isOpen] using hclosed
    have hfound := h.resolve b.session.resource b.bus (hb.of_closed hnone)
    generalize Benchtop.resolve bus b.session.resource b.bus = found at *
    rcases found with ⟨e | info, s⟩
    · exact ⟨hb.settings_eq, by simpa only [hnone] using hfound⟩
    · obtain ⟨timeoutMs, hs⟩ := hb.settings_eq
      have hmade := h.openLink info timeoutMs s hfound
      rw [← hs] at hmade
      dsimp only
      generalize Session.openLink bus info b.session.settings s = made at *
      rcases made with ⟨e | device, s⟩
      · exact ⟨hb.settings_eq, by simpa only [hnone] using hmade⟩
      · exact ⟨hb.settings_eq, hmade⟩

theorem during_close (h : Lasts bus settings closed opened) (hb : During settings closed opened b) :
    During settings closed opened (Session.close bus b).2 := by
  rw [close_apply]
  split
  · exact hb
  · next device ho => exact ⟨hb.settings_eq, h.close (hb.of_opened ho)⟩

theorem during_step (h : Lasts bus settings closed opened) {b' : Bench σ} (hstep : Step bus b b')
    (hb : During settings closed opened b) : During settings closed opened b' := by
  cases hstep with
  | openUp => exact h.during_openUp hb
  | close => exact h.during_close hb
  | setTimeout timeout =>
    obtain ⟨timeoutMs, hs⟩ := hb.settings_eq
    refine ⟨⟨timeout.millis, ?_⟩, ?_⟩
    · change { b.session.settings with timeoutMs := timeout.millis } = _
      rw [hs]
    · match ho : b.session.opened with
      | none => simpa [Session.setTimeout, ho] using hb.of_closed ho
      | some device => simpa [Session.setTimeout, ho] using h.setTimeout (hb.of_opened ho) timeout
  | operate ho hm => exact ⟨hb.settings_eq, h.operate (hb.of_opened ho) hm⟩

/-- What each step preserves, a run does. -/
theorem during_run (h : Lasts bus settings closed opened) (operations : List Operation)
    (hb : During settings closed opened b) :
    During settings closed opened (run bus operations b).2 := by
  have hs : Steps bus b (run bus operations b).2 := steps_run operations b
  generalize (run bus operations b).2 = b' at hs
  induction hs with
  | refl => exact hb
  | tail _ hstep ih => exact h.during_step hstep ih

end Lasts

/-! ## Reachable benches -/

/-- A closed session with a bus in any state, after any operations. -/
def Reachable (bus : Bus σ) (b : Bench σ) : Prop :=
  ∃ resource settings start operations,
    (run bus operations ⟨{ resource, settings }, start⟩).2 = b

/-- An operation leads from a reachable bench to one. -/
theorem Reachable.perform {b : Bench σ} (h : Reachable bus b) (operation : Operation) :
    Reachable bus (operation.perform bus b).2 := by
  obtain ⟨resource, settings, start, operations, rfl⟩ := h
  exact ⟨resource, settings, start, operations ++ [operation],
    congrArg Prod.snd (run_append operations [operation] _)⟩

/-- What holds of a closed session and survives every step holds of every reachable bench. -/
theorem Reachable.induction {b : Bench σ} (h : Reachable bus b) {motive : Bench σ → Prop}
    (closed : ∀ b : Bench σ, b.session.opened = none → motive b)
    (step : ∀ b b', Step bus b b' → motive b → motive b') : motive b := by
  obtain ⟨resource, settings, start, operations, rfl⟩ := h
  have hs : Steps bus _ _ := steps_run operations ⟨{ resource, settings }, start⟩
  generalize (run bus operations ⟨{ resource, settings }, start⟩).2 = b at hs
  induction hs with
  | refl => exact closed _ rfl
  | tail _ hstep ih => exact step _ _ hstep ih

/-- The link of an open session is one that was made with the settings, but for the timeout, which may
have been set since, and for what has been learned and done. -/
theorem Reachable.exists_fresh {b : Bench σ} (h : Reachable bus b) {opened : OpenedDevice}
    (ho : b.session.opened = some opened) :
    ∃ info interface endpoints detached timeout,
      ({ Link.fresh info b.session.settings interface endpoints detached with
          timing.timeout := timeout } : Link).SameClaim opened.link := by
  refine h.induction
    (motive := fun b => ∀ opened, b.session.opened = some opened →
      ∃ info interface endpoints detached timeout,
        ({ Link.fresh info b.session.settings interface endpoints detached with
            timing.timeout := timeout } : Link).SameClaim opened.link)
    (fun b hb opened ho => ?_) (fun b b' hstep ih opened ho => ?_) opened ho
  · rw [hb] at ho
    cases ho
  · cases hstep with
    | openUp =>
      rcases session_openUp b with h | ⟨info, handle, link, s, t, he, h⟩
      · rw [h] at ho ⊢
        exact ih opened ho
      · rw [h] at ho ⊢
        cases ho
        obtain ⟨interface, endpoints, detached, hl⟩ := Link.exists_fresh_of_establish he
        exact ⟨info, interface, endpoints, detached, _, hl⟩
    | close =>
      rw [session_close] at ho
      cases ho
    | setTimeout timeout =>
      obtain ⟨before, ho', rfl⟩ := Option.map_eq_some_iff.1 ho
      obtain ⟨info, interface, endpoints, detached, _, hl⟩ := ih before ho'
      refine ⟨info, interface, endpoints, detached, timeout, ?_⟩
      unfold Link.SameClaim Link.SameOpening at *
      dsimp only
      rw [hl]
      rfl
    | operate ho' hm =>
      cases ho
      obtain ⟨info, interface, endpoints, detached, timeout, hl⟩ := ih _ ho'
      exact ⟨info, interface, endpoints, detached, timeout, hl.trans hm.sameOpening.sameClaim⟩

/-- The limit on payloads of an open link is the one of the settings, or 1 if that is 0. -/
theorem Reachable.maxTransferSize_eq {b : Bench σ} (h : Reachable bus b) {opened : OpenedDevice}
    (ho : b.session.opened = some opened) :
    opened.link.maxTransferSize = max b.session.settings.maxTransferSize 1 := by
  obtain ⟨info, interface, endpoints, detached, timeout, hl⟩ := h.exists_fresh ho
  rw [hl]
  rfl

/-- The limit on polls of an open link is the one of the settings, or 1 if that is 0. -/
theorem Reachable.maxPolls_eq {b : Bench σ} (h : Reachable bus b) {opened : OpenedDevice}
    (ho : b.session.opened = some opened) :
    opened.link.timing.maxPolls = max b.session.settings.maxStatusPolls.toNat 1 := by
  obtain ⟨info, interface, endpoints, detached, timeout, hl⟩ := h.exists_fresh ho
  rw [hl]
  rfl

/-- There is always room for a byte. -/
theorem Reachable.maxTransferSize_pos {b : Bench σ} (h : Reachable bus b) {opened : OpenedDevice}
    (ho : b.session.opened = some opened) : 0 < opened.link.maxTransferSize.toNat := by
  rw [h.maxTransferSize_eq ho]
  change 0 < (if b.session.settings.maxTransferSize ≤ 1 then 1 else _ : UInt32).toNat
  split
  · decide
  · next hlt =>
    have := UInt32.lt_iff_toNat_lt.1 (UInt32.not_le.1 hlt)
    omega

end Benchtop.Session
