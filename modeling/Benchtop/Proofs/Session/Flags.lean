import Benchtop.Proofs.Link.Switches
import Benchtop.Proofs.Session.Brackets
import Benchtop.Proofs.Session.Record
import Benchtop.Scripted.Bus
import Mathlib.Data.List.DropRight

/-!
# What a link notes of remote control and the lock

Remote control and the lock of the front panel are switched by requests under one code, so a record of
calls does not tell which of the two is meant. It does if each event is put down with the operation that
it belongs to (`account`): the lock is switched by the operations `lock` and `unlock`, remote control by
the others.

Main statement: at any point of any run, remote control is what the last acknowledged request since the
opening has set it to, the lock is what the last answered one has set it to, and both are off without
such a request. No operation but closing closes the session, and nothing that was found or chosen at its
opening is changed by any operation (`flags_run`).
-/

namespace Benchtop

open Usb Wire

variable {σ : Type} {bus : Bus σ}

namespace Session

/-! ## Accounts -/

/-- The operations that switch the lock of the front panel. -/
def Operation.switchesLock : Operation → Bool
  | .lock | .unlock => true
  | _ => false

/-- An event, and the operation that it belongs to. -/
structure Entry where
  operation : Operation
  event : BusEvent

namespace Entry

/-- A device has been opened. -/
def opens : Entry → Bool
  | ⟨_, .openDevice _ (.ok _)⟩ => true
  | _ => false

/-- What remote control is set to. -/
def remote? : Entry → Option Bool
  | ⟨operation, .call _ e⟩ => if operation.switchesLock then none else e.granted?
  | _ => none

/-- What the lock is set to. -/
def locked? : Entry → Option Bool
  | ⟨operation, .call _ e⟩ => if operation.switchesLock then e.answered? else none
  | _ => none

end Entry

/-- What an operation adds to the record. -/
def entries (bus : Bus σ) (operation : Operation) (b : Bench (σ × List BusEvent)) : List Entry :=
  ((operation.perform bus.recorded b).2.bus.2.drop b.bus.2.length).map (Entry.mk operation)

/-- What a run adds to the record, each event with the operation that it belongs to. -/
def account (bus : Bus σ) : List Operation → Bench (σ × List BusEvent) → List Entry
  | [], _ => []
  | operation :: operations, b =>
    entries bus operation b ++ account bus operations (operation.perform bus.recorded b).2

/-- The entries after the latest opening of a device. -/
def sinceOpening (past : List Entry) : List Entry := past.rtakeWhile fun entry => !entry.opens

theorem entries_eq {b : Bench (σ × List BusEvent)} {operation : Operation} {events : List BusEvent}
    (h : (operation.perform bus.recorded b).2.bus.2 = b.bus.2 ++ events) :
    entries bus operation b = events.map (Entry.mk operation) := by
  rw [entries, h, List.drop_left]

theorem map_event_entries (bus : Bus σ) (operation : Operation) (b : Bench (σ × List BusEvent)) :
    b.bus.2 ++ (entries bus operation b).map (·.event) =
      (operation.perform bus.recorded b).2.bus.2 := by
  obtain ⟨events, h⟩ := log_prefix_perform bus b operation
  rw [entries_eq h.symm, ← h, List.map_map]
  congr 1
  exact List.map_id events

theorem sinceOpening_append {more : List Entry} (h : ∀ entry ∈ more, ¬ entry.opens)
    (past : List Entry) : sinceOpening (past ++ more) = sinceOpening past ++ more := by
  have hmore : ∀ entry ∈ more.reverse, (!entry.opens) = true := fun entry he => by
    simpa using h entry (List.mem_reverse.1 he)
  rw [sinceOpening, List.rtakeWhile, List.reverse_append, List.takeWhile_append_of_pos hmore,
    List.reverse_append, List.reverse_reverse]
  rfl

theorem sinceOpening_opens {entry : Entry} {more : List Entry} (hentry : entry.opens)
    (h : ∀ entry ∈ more, ¬ entry.opens) (past : List Entry) :
    sinceOpening (past ++ entry :: more) = more := by
  have hnone : sinceOpening (past ++ [entry]) = [] := by
    rw [sinceOpening, List.rtakeWhile_concat_neg _ _ _ (by simpa using hentry)]
  rw [List.append_cons, sinceOpening_append h, hnone, List.nil_append]

/-! ## What operations switch -/

theorem Operation.not_makes_frontPanelLock {operation : Operation} (h : ¬ operation.switchesLock) :
    ¬ operation.makes .frontPanelLock := by
  intro hmakes
  cases operation <;> first | exact h rfl | cases hmakes

theorem Operation.not_makes_remoteEnable {operation : Operation}
    (h : ∀ on, operation ≠ .remoteControl on) : ¬ operation.makes .remoteEnable := by
  intro hmakes
  cases operation <;> first | exact h _ rfl | cases hmakes

theorem Operation.ne_remoteControl {operation : Operation} (h : operation.switchesLock) (on : Bool) :
    operation ≠ .remoteControl on := by
  rintro rfl
  cases h

/-- Remote control and the lock are what the entries since the opening have set them to, and on only where
there is such a thing. -/
structure Flagged (past : List Entry) (link : Link) : Prop where
  remote_eq : link.remote = lastValue Entry.remote? false (sinceOpening past)
  locked_eq : link.locked = lastValue Entry.locked? false (sinceOpening past)
  justified : link.Justified

/-- The calls of one operation, as entries. -/
def calls (operation : Operation) (number : Nat) (events : List Event) : List Entry :=
  events.map fun e => ⟨operation, .call number e⟩

theorem not_opens_of_mem_calls (operation : Operation) (number : Nat) (events : List Event) :
    ∀ entry ∈ calls operation number events, ¬ entry.opens := by
  intro entry he
  obtain ⟨e, -, rfl⟩ := List.mem_map.1 he
  exact Bool.false_ne_true

/-- The calls of an operation that does not switch the lock set remote control, if anything. -/
theorem lastValue_calls {operation : Operation} (h : ¬ operation.switchesLock) (number : Nat)
    (events : List Event) (start : Bool) :
    lastValue Entry.remote? start (calls operation number events) =
        lastValue Event.granted? start events ∧
      lastValue Entry.locked? start (calls operation number events) = start := by
  refine ⟨?_, lastValue_of_none fun entry he => ?_⟩
  · rw [calls, lastValue_map]
    congr 1
    funext e
    exact if_neg h
  · obtain ⟨e, -, rfl⟩ := List.mem_map.1 he
    exact if_neg h

/-- The calls of an operation that switches the lock set that, if anything. -/
theorem lastValue_calls_of_switchesLock {operation : Operation} (h : operation.switchesLock)
    (number : Nat) (events : List Event) (start : Bool) :
    lastValue Entry.locked? start (calls operation number events) =
        lastValue Event.answered? start events ∧
      lastValue Entry.remote? start (calls operation number events) = start := by
  refine ⟨?_, lastValue_of_none fun entry he => ?_⟩
  · rw [calls, lastValue_map]
    congr 1
    funext e
    exact if_pos h
  · obtain ⟨e, -, rfl⟩ := List.mem_map.1 he
    exact if_pos h

/-- What a link notes of the calls of an operation is what they set. -/
theorem Flagged.operate {past : List Entry} {link link' : Link} {events : List Event}
    (h : Flagged past link) {operation : Operation}
    (hn : Link.NotesAll operation.makes link events link') (number : Nat) :
    Flagged (past ++ calls operation number events) link' := by
  have hpast := sinceOpening_append (not_opens_of_mem_calls operation number events) past
  by_cases hlock : operation.switchesLock
  · obtain ⟨hlocked, hremote⟩ :=
      hn.locked_eq (Operation.not_makes_remoteEnable (Operation.ne_remoteControl hlock))
    have hcalls := lastValue_calls_of_switchesLock hlock number events
    refine ⟨?_, ?_, hn.justified h.justified⟩
    · rw [hpast, lastValue_append, (hcalls _).2, hremote, h.remote_eq]
    · rw [hpast, lastValue_append, (hcalls _).1, hlocked, h.locked_eq]
  · obtain ⟨hremote, hlocked⟩ := hn.remote_eq (Operation.not_makes_frontPanelLock hlock)
    have hcalls := lastValue_calls hlock number events
    refine ⟨?_, ?_, hn.justified h.justified⟩
    · rw [hpast, lastValue_append, (hcalls _).1, hremote, h.remote_eq]
    · rw [hpast, lastValue_append, (hcalls _).2, hlocked, h.locked_eq]

/-- What a link has noted when it was made is what the calls of its opening have set. -/
theorem flagged_openUp {info : DeviceInfo} {settings : Settings} {link : Link} {events : List Event}
    (h : Link.MadeBy info settings link events) (number : Nat) (past : List Entry) :
    Flagged (past ++ ⟨.openUp, .openDevice info (.ok number)⟩ :: calls .openUp number events)
      link := by
  obtain ⟨hremote, hlocked, hjustified⟩ := h.remote_eq
  have hlock : ¬ Operation.openUp.switchesLock := Bool.false_ne_true
  have hcalls := lastValue_calls hlock number events false
  have hopens : (Entry.mk .openUp (.openDevice info (.ok number))).opens := rfl
  have hsince := sinceOpening_opens hopens (not_opens_of_mem_calls .openUp number events) past
  refine ⟨?_, ?_, hjustified⟩
  · rw [hsince, hcalls.1, hremote]
  · rw [hsince, hcalls.2, hlocked]

/-! ## What operations leave as it is -/

/-- What an operation with this answer leaves as it is: all that was found and chosen when the instrument
was opened, the timeout unless it is set, and remote control and the lock unless the operation switches
them and succeeds. -/
structure Leaves (operation : Operation) (answer : Except Failure Answer) (link link' : Link) :
    Prop where
  opening_eq : link' = { link with
    tags := link'.tags
    statusTags := link'.statusTags
    timing.timeout := link'.timing.timeout
    remote := link'.remote
    locked := link'.locked }
  timing_eq : (∀ timeout, operation ≠ .setTimeout timeout) → link'.timing = link.timing
  remote_eq : (∀ on, operation ≠ .remoteControl on) ∨ ¬ answer.isOk → link'.remote = link.remote
  locked_eq : ¬ operation.switchesLock ∨ ¬ answer.isOk → link'.locked = link.locked

theorem Leaves.refl (operation : Operation) (answer : Except Failure Answer) (link : Link) :
    Leaves operation answer link link :=
  ⟨rfl, fun _ => rfl, fun _ => rfl, fun _ => rfl⟩

/-- What is left of an action that leaves the link as it is when it fails. -/
theorem opened_of_onLink_error {α : Type} {b : Bench σ} {opened : OpenedDevice}
    (ho : b.session.opened = some opened) {action : Device σ → Exchange σ α}
    (hkeeps : ∀ {dev c c' e}, action dev c = (.error e, c') → c'.link = c.link) (f : α → Answer)
    (hfails : ¬ ((onLink bus action >>= fun a => pure (f a)) b).1.isOk) :
    ((onLink bus action >>= fun a => pure (f a)) b).2.session.opened = some opened := by
  rw [bind_pure_apply, onLink_apply ho] at hfails ⊢
  rcases hmade : action (bus.device opened.handle) ⟨opened.link, b.bus⟩ with ⟨e | a, c⟩
  · dsimp only
    rw [hkeeps hmade]
  · rw [hmade] at hfails
    exact absurd rfl hfails

/-- Switching remote control or the lock, it leaves both as they are if it fails. -/
theorem opened_of_perform_error {b : Bench σ} {opened : OpenedDevice}
    (ho : b.session.opened = some opened) {operation : Operation}
    (h : (∃ on, operation = .remoteControl on) ∨ operation.switchesLock)
    (hfails : ¬ (operation.perform bus b).1.isOk) :
    (operation.perform bus b).2.session.opened = some opened := by
  have hswitch {on : Bool} {name : String} {dev : Device σ} {c c' : Connection σ} {e : Failure}
      (hlock : (Link.requireLockable name >>= fun _ => Link.setLock dev on) c = (.error e, c')) :
      c'.link = c.link := by
    rw [Link.requireLockable_bind_apply] at hlock
    split at hlock
    · exact Link.setLock_error hlock
    · cases hlock
      rfl
  cases operation with
  | remoteControl on => exact opened_of_onLink_error ho Link.remoteControl_error _ hfails
  | lock => exact opened_of_onLink_error ho hswitch _ hfails
  | unlock => exact opened_of_onLink_error ho hswitch _ hfails
  | _ => rcases h with ⟨_, h⟩ | h <;> cases h

/-- An operation other than closing keeps the session open. -/
theorem exists_leaves_of_perform (bus : Bus σ) {b : Bench (σ × List BusEvent)} {opened : OpenedDevice}
    (ho : b.session.opened = some opened) {operation : Operation} (hclose : operation ≠ .close)
    (hdrop : operation ≠ .drop) :
    ∃ link, (operation.perform bus.recorded b).2.session.opened = some { opened with link } ∧
      Leaves operation (operation.perform bus.recorded b).1 opened.link link := by
  by_cases huses : operation.usesLink
  · obtain ⟨link, s, events, hperform, -, hn⟩ := exists_notesAll_of_perform bus ho huses
    refine ⟨link, by rw [hperform], ?_⟩
    have hfails (hswitches : (∃ on, operation = .remoteControl on) ∨ operation.switchesLock)
        (hfails : ¬ (operation.perform bus.recorded b).1.isOk) : link = opened.link := by
      have hkept := opened_of_perform_error ho hswitches hfails
      rw [hperform] at hkept
      exact congrArg OpenedDevice.link (Option.some.inj hkept)
    have hopening : link = _ := hn.sameOpening
    refine ⟨by rw [hopening], fun _ => by rw [hopening], fun h => ?_, fun h => ?_⟩
    · by_cases hremote : ∃ on, operation = .remoteControl on
      · obtain ⟨on, rfl⟩ := hremote
        rw [hfails (.inl ⟨on, rfl⟩) (h.resolve_left fun hne => hne on rfl)]
      · exact (hn.locked_eq (Operation.not_makes_remoteEnable
          fun on hon => hremote ⟨on, hon⟩)).2
    · by_cases hlock : operation.switchesLock
      · rw [hfails (.inr hlock) (h.resolve_left (not_not_intro hlock))]
      · exact (hn.remote_eq (Operation.not_makes_frontPanelLock hlock)).2
  · cases operation with
    | openUp =>
      have hopen : b.session.isOpen := by simp [isOpen, ho]
      rw [perform_openUp_of_opened hopen]
      exact ⟨opened.link, ho, .refl _ _ _⟩
    | setTimeout timeout =>
      exact ⟨{ opened.link with timing.timeout := timeout }, congrArg (Option.map _) ho, rfl,
        fun h => absurd rfl (h timeout), fun _ => rfl, fun _ => rfl⟩
    | close => exact absurd rfl hclose
    | drop => exact absurd rfl hdrop
    | _ => exact absurd rfl huses

/-! ## Runs -/

/-- The entries are what is recorded, and the link of an open session has noted what they set. -/
structure Accounted (past : List Entry) (b : Bench (σ × List BusEvent)) : Prop where
  events_eq : past.map (·.event) = b.bus.2
  flagged : ∀ opened, b.session.opened = some opened → Flagged past opened.link

theorem flagged_perform {past : List Entry} {b : Bench (σ × List BusEvent)}
    (h : ∀ opened, b.session.opened = some opened → Flagged past opened.link)
    (operation : Operation) {opened : OpenedDevice}
    (ho : (operation.perform bus.recorded b).2.session.opened = some opened) :
    Flagged (past ++ entries bus operation b) opened.link := by
  by_cases huses : operation.usesLink
  · rcases hb : b.session.opened with _ | before
    · have hworks : Works bus.recorded operation.makes b (operation.perform bus.recorded b).2 :=
        works_perform huses b
      generalize (operation.perform bus.recorded b).2 = b' at hworks ho
      cases hworks with
      | closed =>
        rw [hb] at ho
        cases ho
      | opened ho' =>
        rw [hb] at ho'
        cases ho'
    · obtain ⟨link, s, events, hperform, hlog, hn⟩ := exists_notesAll_of_perform bus hb huses
      rw [hperform] at ho
      cases ho
      rw [entries_eq (by rw [hperform]; exact hlog), List.map_map]
      exact (h before hb).operate hn before.handle
  · cases operation with
    | openUp =>
      by_cases hopen : b.session.isOpen
      · rw [perform_openUp_of_opened hopen] at ho
        have hnone : entries bus .openUp b = [] :=
          entries_eq (by rw [perform_openUp_of_opened hopen, List.append_nil])
        rw [hnone, List.append_nil]
        exact h opened ho
      · have hnone : b.session.opened = none := by simpa [isOpen] using hopen
        rw [Operation.perform, bind_pure_apply_snd] at ho
        obtain ⟨info, found, events, hlog, hmade⟩ := exists_madeBy_of_openUp hnone ho
        rw [List.append_assoc] at hlog
        rw [entries_eq (by rw [Operation.perform, bind_pure_apply_snd]; exact hlog),
          List.map_append, List.map_cons, List.map_map, ← List.append_assoc]
        exact flagged_openUp hmade opened.handle _
    | close =>
      rw [Operation.perform, bind_pure_apply_snd, session_close] at ho
      cases ho
    | drop =>
      have hnone : (Operation.drop.perform bus.recorded b).2.session.opened = none :=
        congrArg Session.opened (session_close b)
      rw [hnone] at ho
      cases ho
    | setTimeout timeout =>
      have hlog : ((Operation.setTimeout timeout).perform bus.recorded b).2.bus.2 = b.bus.2 ++ [] :=
        (List.append_nil b.bus.2).symm
      have hnone : entries bus (.setTimeout timeout) b = [] := entries_eq hlog
      rw [hnone, List.append_nil]
      obtain ⟨before, hb, rfl⟩ := Option.map_eq_some_iff.1 ho
      have hbefore := h before hb
      exact ⟨hbefore.remote_eq, hbefore.locked_eq, ⟨hbefore.justified.remote,
        hbefore.justified.locked⟩⟩
    | _ => exact absurd rfl huses

theorem Accounted.perform {past : List Entry} {b : Bench (σ × List BusEvent)}
    (h : Accounted past b) (bus : Bus σ) (operation : Operation) :
    Accounted (past ++ entries bus operation b) (operation.perform bus.recorded b).2 where
  events_eq := by rw [List.map_append, h.events_eq, map_event_entries]
  flagged _ := flagged_perform h.flagged operation

theorem Accounted.run {past : List Entry} {b : Bench (σ × List BusEvent)} (h : Accounted past b)
    (bus : Bus σ) (operations : List Operation) :
    Accounted (past ++ account bus operations b) (Session.run bus.recorded operations b).2 := by
  induction operations generalizing past b with
  | nil => rwa [account, List.append_nil]
  | cons operation operations ih =>
    rw [account, ← List.append_assoc]
    exact ih (h.perform bus operation)

/-- On a bus of any behaviour, at any point of any run, while the session is open: remote control is what
the last acknowledged request for it since the opening has set, and the lock what the last answered one
has set; without such a request they are off. They are on only where there is such a thing. No operation
but closing closes the session, and none changes what was found and chosen when it was opened, or remote
control or the lock without success (`Leaves`). All this stays as it is while a message is read, after any
number of its envelopes. -/
theorem flags_run (bus : Bus σ) (resource : Resource) (settings : Settings) (start : σ)
    (operations : List Operation) :
    let closed : Bench (σ × List BusEvent) := ⟨{ resource, settings }, (start, [])⟩
    let b := (run bus.recorded operations closed).2
    let past := account bus operations closed
    past.map (·.event) = b.bus.2 ∧
    ∀ opened, b.session.opened = some opened →
      opened.link.remote = lastValue Entry.remote? false (sinceOpening past) ∧
      opened.link.locked = lastValue Entry.locked? false (sinceOpening past) ∧
      (opened.link.remote → opened.link.capabilities.remoteLocal) ∧
      (opened.link.locked → opened.link.profile.isLockable) ∧
      (∀ operation : Operation, operation ≠ .close → operation ≠ .drop →
        ∃ link, (operation.perform bus.recorded b).2.session.opened = some { opened with link } ∧
          Leaves operation (operation.perform bus.recorded b).1 opened.link link) ∧
      ∀ n, ∃ link s, (fun c => (Link.readEnvelope (bus.recorded.device opened.handle) c).2)^[n]
          ⟨opened.link, b.bus⟩ = ⟨link, s⟩ ∧
        link = { opened.link with tags := link.tags } := by
  intro closed b past
  have hclosed : Accounted [] closed := ⟨rfl, fun opened ho => by cases ho⟩
  have hb : Accounted past b := hclosed.run bus operations
  refine ⟨hb.events_eq, fun opened ho => ?_⟩
  have hflagged := hb.flagged opened ho
  refine ⟨hflagged.remote_eq, hflagged.locked_eq, hflagged.justified.remote,
    hflagged.justified.locked, fun operation => exists_leaves_of_perform bus ho, fun n => ?_⟩
  have hm := Link.moves_iterate_readEnvelope (bus.recorded.device opened.handle) (fun _ => False)
    ⟨opened.link, b.bus⟩ n
  obtain ⟨events, -, hn⟩ := hm.exists_notes fun h => h .getCapabilities
  exact ⟨_, _, rfl, hn.eq_with_tags⟩

/-- An instrument with a front panel lock and remote control. Both go by one code: it grants remote
control, refuses the lock, refuses to give remote control back, and stalls after that. -/
def switchedDevice : ScriptedDevice :=
  { (ScriptedDevice.usb488 false).setControlDefault Request.getCapabilities.code
      (Scripted.capabilitiesAnswer 0 0 2 0) with
    controlQueue := [.ok [1], .ok [0x80], .ok [0x80], .error (.stalled 0)].map fun answer =>
      (Request.remoteEnable.code, answer) }

def switchedInfo : DeviceInfo := ⟨0x1334, 2, none, "mock", 2, []⟩

def switchedStart : Bench (ScriptedBus × List BusEvent) :=
  ⟨{ resource := .attached switchedInfo, settings := {} },
    ({ devices := [(switchedInfo, switchedDevice)] }, [])⟩

/-- A session with this instrument that has switched both. -/
def switched : Bench (ScriptedBus × List BusEvent) :=
  (run ScriptedBus.behaviour.recorded [.openUp, .lock, .remoteControl false, .unlock] switchedStart).2

def switchedPast : List Entry :=
  account ScriptedBus.behaviour [.openUp, .lock, .remoteControl false, .unlock] switchedStart

/-- A lock that is refused is noted, remote control is kept, and so is a lock that cannot be undone. -/
theorem flags_run_switched :
    switchedPast.map (·.event) = switched.bus.2 ∧
    (sinceOpening switchedPast).filterMap Entry.remote? = [true] ∧
    (sinceOpening switchedPast).filterMap Entry.locked? = [true] ∧
    ∃ opened, switched.session.opened = some opened ∧
      opened.link.remote = true ∧ opened.link.locked = true ∧
      opened.link.capabilities.remoteLocal = true ∧ opened.link.profile.isLockable = true ∧
      (∃ link, (Operation.unlock.perform ScriptedBus.behaviour.recorded switched).2.session.opened =
          some { opened with link } ∧
        Leaves .unlock (Operation.unlock.perform ScriptedBus.behaviour.recorded switched).1 opened.link
          link) ∧
      ∃ link s, (fun c => (Link.readEnvelope
          (ScriptedBus.behaviour.recorded.device opened.handle) c).2)^[3] ⟨opened.link, switched.bus⟩ =
            ⟨link, s⟩ ∧
        link = { opened.link with tags := link.tags } := by
  have hopen : switched.session.isOpen := by decide +kernel
  have hremote : (sinceOpening switchedPast).filterMap Entry.remote? = [true] := by decide +kernel
  have hlocked : (sinceOpening switchedPast).filterMap Entry.locked? = [true] := by decide +kernel
  have hstart : (⟨{ resource := .attached switchedInfo, settings := {} },
      ({ devices := [(switchedInfo, switchedDevice)] }, [])⟩ : Bench (ScriptedBus × List BusEvent)) =
    switchedStart := rfl
  have hran : (run ScriptedBus.behaviour.recorded [.openUp, .lock, .remoteControl false, .unlock]
    switchedStart).2 = switched := rfl
  have hpast : account ScriptedBus.behaviour [.openUp, .lock, .remoteControl false, .unlock]
    switchedStart = switchedPast := rfl
  have hrun := flags_run ScriptedBus.behaviour (.attached switchedInfo) {}
    { devices := [(switchedInfo, switchedDevice)] } [.openUp, .lock, .remoteControl false, .unlock]
  simp only [hstart, hran, hpast] at hrun
  obtain ⟨hevents, hflags⟩ := hrun
  obtain ⟨opened, ho⟩ := Option.isSome_iff_exists.1 hopen
  obtain ⟨hon, hlock, hknown, hlockable, hleaves, hreading⟩ := hflags opened ho
  have hon : opened.link.remote = true := by
    rw [hon, lastValue, hremote]
    rfl
  have hlock : opened.link.locked = true := by
    rw [hlock, lastValue, hlocked]
    rfl
  exact ⟨hevents, hremote, hlocked, opened, ho, hon, hlock, hknown hon, hlockable hlock,
    hleaves .unlock (by decide) (by decide), hreading 3⟩

end Session

end Benchtop
