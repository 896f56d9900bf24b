import Benchtop.Host.Bus
import Benchtop.Proofs.Action
import Mathlib.Data.List.Perm.Basic

/-!
# What a host has to get back

A host keeps every claim that was ever made, and logs a release when nothing is held of a claim any
more. `Host.Ledger` accounts for this: the claims that are held and the endpoints that are open are those
of two lists, releases have been logged once for every claim that is over, and drivers have been
attached as a third list says. Most calls change none of this (`Host.Plain`).

Main statements: whatever call is made of an opened device, the claims and endpoints are those of the
device, and a driver is attached by no call but that one (`Host.ensures_perform`). When the device is let
go of, nothing is held any more (`Host.ledger_letGoOfDevice`), so every claim is over and has been
released once (`Host.Ledger.released_perm`).
-/

namespace Benchtop

open Usb

namespace Host

/-! ## Ledgers -/

/-- The interface of a release. -/
def Event.released? : Event → Option UInt8
  | release interface => some interface
  | _ => none

/-- The interface of an attempt to attach a driver. -/
def Event.attached? : Event → Option UInt8
  | attachDriver interface => some interface
  | _ => none

/-- Nothing is held of a claim any more. -/
def Claim.isOver (c : Claim) : Bool := !c.held && c.endpoints.isEmpty

/-- The interfaces that have been released. -/
def released (h : Host) : List UInt8 := h.log.filterMap Event.released?

/-- The interfaces that drivers have been attached to, or failed to be. -/
def attached (h : Host) : List UInt8 := h.log.filterMap Event.attached?

/-- Every claim that is over has been released once. -/
def AllReleased (h : Host) : Prop :=
  ∀ interface, h.released.count interface =
    h.claims.countP fun c => c.isOver && c.interface == interface

/-- The claims in `holds` are held and no others, the endpoints open under a claim are those of `inUse`,
and every claim that is over has been released once. Drivers have been attached to the interfaces in
`drivers`. -/
structure Ledger (holds : List Nat) (inUse : List OpenEndpoint) (drivers : List UInt8) (h : Host) :
    Prop where
  held : ∀ (k : Nat) (c : Claim), h.claims[k]? = some c → (c.held = true ↔ k ∈ holds)
  endpoints : ∀ (k : Nat) (c : Claim), h.claims[k]? = some c →
    c.endpoints.Perm ((inUse.filter (·.claim = k)).map (·.address))
  lt_of_mem_holds : ∀ k ∈ holds, k < h.claims.length
  lt_of_mem_inUse : ∀ e ∈ inUse, e.claim < h.claims.length
  released : h.AllReleased
  attached : h.attached = drivers

/-- Calls that have nothing to do with claims and drivers. -/
def Plain (h h' : Host) : Prop :=
  h'.claims = h.claims ∧ h'.released = h.released ∧ h'.attached = h.attached

instance : Std.Refl Plain where
  refl _ := ⟨rfl, rfl, rfl⟩

instance : IsTrans Host Plain where
  trans _ _ _ h h' := ⟨h'.1.trans h.1, h'.2.1.trans h.2.1, h'.2.2.trans h.2.2⟩

section

variable {h h' : Host} {holds holds' : List Nat} {inUse inUse' : List OpenEndpoint} {drivers : List UInt8}

theorem Ledger.plain (hl : Ledger holds inUse drivers h) (hp : Plain h h') :
    Ledger holds inUse drivers h' := by
  obtain ⟨hclaims, hreleased, hattached⟩ := hp
  obtain ⟨h1, h2, h3, h4, h5, h6⟩ := hl
  rw [← hclaims] at h1 h2 h3 h4
  refine ⟨h1, h2, h3, h4, ?_, hattached.trans h6⟩
  rwa [AllReleased, hreleased, hclaims]

/-- The order of the lists does not matter. -/
theorem Ledger.perm (hl : Ledger holds inUse drivers h) (hholds : holds.Perm holds')
    (hinUse : inUse.Perm inUse') : Ledger holds' inUse' drivers h where
  held k c hc := (hl.held k c hc).trans hholds.mem_iff
  endpoints k c hc := (hl.endpoints k c hc).trans ((hinUse.filter _).map _)
  lt_of_mem_holds k hk := hl.lt_of_mem_holds k (hholds.mem_iff.2 hk)
  lt_of_mem_inUse e he := hl.lt_of_mem_inUse e (hinUse.mem_iff.2 he)
  released := hl.released
  attached := hl.attached

/-- When nothing is held, every claim is over. -/
theorem Ledger.isOver (hl : Ledger [] [] drivers h) : ∀ c ∈ h.claims, c.isOver = true := by
  intro c hc
  obtain ⟨k, hk⟩ := List.mem_iff_getElem?.1 hc
  have hheld : c.held = false := by simpa using hl.held k c hk
  have hendpoints : c.endpoints = [] := List.perm_nil.1 (hl.endpoints k c hk)
  simp [Claim.isOver, hheld, hendpoints]

/-- When nothing is held, every claim has been released once. -/
theorem Ledger.released_perm (hl : Ledger [] [] drivers h) :
    h.released.Perm (h.claims.map (·.interface)) := by
  refine List.perm_iff_count.2 fun interface => ?_
  rw [hl.released, List.count, List.countP_map]
  refine List.countP_congr fun c hc => ?_
  simp [hl.isOver c hc]

end

/-! ## One claim changes -/

theorem countP_modify {α : Type} (p : α → Bool) (f : α → α) {l : List α} {k : Nat} {a : α}
    (h : l[k]? = some a) :
    (l.modify k f).countP p + (if p a then 1 else 0) = l.countP p + if p (f a) then 1 else 0 := by
  induction l generalizing k with
  | nil => simp at h
  | cons b l ih =>
    cases k with
    | zero =>
      obtain rfl : b = a := by simpa using h
      simp only [List.modify_zero_cons, List.countP_cons]
      omega
    | succ k =>
      have := ih (by simpa using h)
      simp only [List.modify_succ_cons, List.countP_cons]
      omega

section

variable {h h' : Host} {holds holds' : List Nat} {inUse inUse' : List OpenEndpoint}
  {drivers : List UInt8} {k : Nat} {c : Claim} {f : Claim → Claim}

@[simp] theorem claims_settleClaim (k : Nat) (h : Host) : (settleClaim k h).claims = h.claims := by
  unfold settleClaim
  split
  · split <;> rfl
  · rfl

@[simp] theorem attached_settleClaim (k : Nat) (h : Host) :
    (settleClaim k h).attached = h.attached := by
  unfold settleClaim
  split
  · split
    · simp [attached, logged, Event.attached?]
    · rfl
  · rfl

/-- A claim that is not over is changed, and it is not over yet. -/
theorem AllReleased.modify (hr : h.AllReleased) (hc : h.claims[k]? = some c) (hnot : c.isOver = false)
    (hnot' : (f c).isOver = false) : AllReleased { h with claims := h.claims.modify k f } := by
  intro interface
  have hcount := countP_modify (fun c => c.isOver && c.interface == interface) f hc
  simp only [hnot, hnot', Bool.false_and, Bool.false_eq_true, if_false] at hcount
  exact (hr interface).trans hcount.symm

/-- A claim that is not over is changed, and released if it is over then. -/
theorem AllReleased.settleClaim (hr : h.AllReleased) (hc : h.claims[k]? = some c)
    (hnot : c.isOver = false) (hsame : (f c).interface = c.interface) :
    AllReleased (settleClaim k { h with claims := h.claims.modify k f }) := by
  have hget : (h.claims.modify k f)[k]? = some (f c) := by simp [hc]
  unfold Host.settleClaim
  rw [hget]
  dsimp only
  split
  · next hover =>
    change (f c).isOver = true at hover
    intro interface
    have hcount := countP_modify (fun c => c.isOver && c.interface == interface) f hc
    have hlog : released (logged { h with claims := h.claims.modify k f } (.release (f c).interface)) =
        h.released ++ [c.interface] := by
      simp [released, logged, Event.released?, hsame]
    rw [hlog, List.count_append, hr interface]
    simp only [hnot, hover, hsame, Bool.false_and, Bool.true_and, Bool.false_eq_true,
      if_false] at hcount
    simp only [List.count_singleton, logged]
    omega
  · next hover =>
    refine hr.modify hc hnot ?_
    change ¬ (f c).isOver = true at hover
    simpa using hover

/-- A claim is changed, and what is held and in use of no other one. -/
theorem Ledger.change (hl : Ledger holds inUse drivers h) (hc : h.claims[k]? = some c)
    (hclaims : h'.claims = h.claims.modify k f) (hreleased : h'.AllReleased)
    (hattached : h'.attached = h.attached) (hheld : (f c).held = true ↔ k ∈ holds')
    (hholds : ∀ j ≠ k, j ∈ holds' ↔ j ∈ holds)
    (hends : (f c).endpoints.Perm ((inUse'.filter (·.claim = k)).map (·.address)))
    (hinUse : ∀ j ≠ k, inUse'.filter (·.claim = j) = inUse.filter (·.claim = j)) :
    Ledger holds' inUse' drivers h' := by
  have hk : k < h.claims.length := (List.getElem?_eq_some_iff.1 hc).1
  have hlength : h'.claims.length = h.claims.length := by rw [hclaims, List.length_modify]
  have hat : h'.claims[k]? = some (f c) := by simp [hclaims, hc]
  have hother {j : Nat} (hj : j ≠ k) : h'.claims[j]? = h.claims[j]? := by
    simp [hclaims, Ne.symm hj]
  constructor
  case held =>
    intro j d hd
    by_cases hj : j = k
    · rw [hj, hat] at hd
      cases hd
      rw [hj, hheld]
    · rw [hother hj] at hd
      rw [hl.held j d hd, hholds j hj]
  case endpoints =>
    intro j d hd
    by_cases hj : j = k
    · rw [hj, hat] at hd
      cases hd
      rwa [hj]
    · rw [hother hj] at hd
      rw [hinUse j hj]
      exact hl.endpoints j d hd
  case lt_of_mem_holds =>
    intro j hmem
    rw [hlength]
    by_cases hj : j = k
    · rwa [hj]
    · exact hl.lt_of_mem_holds j ((hholds j hj).1 hmem)
  case lt_of_mem_inUse =>
    intro e hmem
    rw [hlength]
    by_cases hj : e.claim = k
    · rwa [hj]
    · have he : e ∈ inUse'.filter (·.claim = e.claim) := List.mem_filter.2 ⟨hmem, by simp⟩
      rw [hinUse _ hj] at he
      exact hl.lt_of_mem_inUse e (List.mem_of_mem_filter he)
  case released => exact hreleased
  case attached => exact hattached.trans hl.attached

/-- The last hold on a claim, but for its endpoints, is let go of. -/
theorem Ledger.dropClaim (hl : Ledger (k :: holds) inUse drivers h) (hk : k ∉ holds) :
    Ledger holds inUse drivers (dropClaim k h) := by
  obtain ⟨c, hc⟩ : ∃ c, h.claims[k]? = some c :=
    ⟨_, List.getElem?_eq_getElem (hl.lt_of_mem_holds k List.mem_cons_self)⟩
  have hheld : c.held = true := (hl.held k c hc).2 List.mem_cons_self
  have hnot : c.isOver = false := by simp [Claim.isOver, hheld]
  refine hl.change hc (f := fun c => { c with held := false }) ?_ ?_ ?_ ?_ ?_ (hl.endpoints k c hc)
    fun _ _ => rfl
  · exact claims_settleClaim _ _
  · exact AllReleased.settleClaim hl.released hc hnot rfl
  · exact attached_settleClaim _ _
  · simpa using hk
  · intro j hj
    simp [hj]

/-- A logged event that is neither a release nor an attempt to attach a driver. -/
theorem plain_logged (h : Host) {e : Event} (hreleased : e.released? = none)
    (hattached : e.attached? = none) : Plain h (h.logged e) := by
  refine ⟨rfl, ?_, ?_⟩
  · simp [released, logged, hreleased]
  · simp [attached, logged, hattached]

/-- An endpoint is closed. -/
theorem Ledger.closeEndpoint {e : OpenEndpoint} (hl : Ledger holds (e :: inUse) drivers h) :
    Ledger holds inUse drivers (closeEndpoint e h) := by
  have hlogged := hl.plain (plain_logged h (e := .closeEndpoint e.address) rfl rfl)
  obtain ⟨c, hc⟩ : ∃ c, (h.logged (.closeEndpoint e.address)).claims[e.claim]? = some c :=
    ⟨_, List.getElem?_eq_getElem (hlogged.lt_of_mem_inUse e List.mem_cons_self)⟩
  have hends := hlogged.endpoints e.claim c hc
  rw [List.filter_cons_of_pos (by simp), List.map_cons] at hends
  have hnot : c.isOver = false := by
    have hne : c.endpoints ≠ [] := fun he => by
      rw [he] at hends
      exact List.cons_ne_nil _ _ (List.nil_perm.1 hends)
    simp [Claim.isOver, hne]
  refine hlogged.change hc (f := fun c => { c with endpoints := c.endpoints.erase e.address })
    ?_ ?_ ?_ ?_ ?_ ?_ ?_
  · exact claims_settleClaim _ _
  · exact AllReleased.settleClaim hlogged.released hc hnot rfl
  · exact attached_settleClaim _ _
  · exact hlogged.held e.claim c hc
  · exact fun _ _ => Iff.rfl
  · have herase := hends.erase e.address
    rwa [List.erase_cons_head] at herase
  · intro j hj
    rw [List.filter_cons_of_neg (by simpa using Ne.symm hj)]

/-- A new claim is held. -/
theorem Ledger.addClaim (hl : Ledger holds inUse drivers h) (place : Nat) (interface : UInt8) :
    h.claims.length ∉ holds ∧
      Ledger (h.claims.length :: holds) inUse drivers
        { h with claims := h.claims ++ [({ place, interface } : Claim)] } := by
  refine ⟨fun hmem => Nat.lt_irrefl _ (hl.lt_of_mem_holds _ hmem), ?_⟩
  have hcases {k : Nat} {c : Claim}
      (hc : (h.claims ++ [({ place, interface } : Claim)])[k]? = some c) :
      h.claims[k]? = some c ∧ k < h.claims.length ∨
        k = h.claims.length ∧ c = { place, interface } := by
    rcases Nat.lt_trichotomy k h.claims.length with hlt | rfl | hgt
    · rw [List.getElem?_append_left hlt] at hc
      exact .inl ⟨hc, hlt⟩
    · exact .inr ⟨rfl, by simpa using hc.symm⟩
    · have hnone : (h.claims ++ [({ place, interface } : Claim)])[k]? = none :=
        List.getElem?_eq_none (by simpa using Nat.succ_le_of_lt hgt)
      rw [hnone] at hc
      cases hc
  constructor
  case held =>
    intro k c hc
    rcases hcases hc with ⟨hc, hlt⟩ | ⟨rfl, rfl⟩
    · rw [hl.held k c hc, List.mem_cons, or_iff_right (Nat.ne_of_lt hlt)]
    · simp
  case endpoints =>
    intro k c hc
    rcases hcases hc with ⟨hc, -⟩ | ⟨rfl, rfl⟩
    · exact hl.endpoints k c hc
    · have hnone : inUse.filter (·.claim = h.claims.length) = [] :=
        List.filter_eq_nil_iff.2 fun e he => by
          simpa using Nat.ne_of_lt (hl.lt_of_mem_inUse e he)
      simp [hnone]
  case lt_of_mem_holds =>
    simp only [List.length_append, List.length_singleton]
    rintro k hk
    rcases List.mem_cons.1 hk with rfl | hk
    · exact Nat.lt_succ_self _
    · exact Nat.lt_succ_of_lt (hl.lt_of_mem_holds k hk)
  case lt_of_mem_inUse =>
    simp only [List.length_append, List.length_singleton]
    exact fun e he => Nat.lt_succ_of_lt (hl.lt_of_mem_inUse e he)
  case released =>
    intro interface'
    rw [List.countP_append]
    exact hl.released interface'
  case attached => exact hl.attached

/-- The alternate setting of a claim does not matter. -/
theorem Ledger.setAlternate (hl : Ledger holds inUse drivers h) (hc : h.claims[k]? = some c)
    (hnot : c.isOver = false) (alternate : UInt8) :
    Ledger holds inUse drivers
      { h with claims := h.claims.modify k fun c => { c with alternate } } :=
  hl.change hc rfl (AllReleased.modify hl.released hc hnot hnot) rfl (hl.held k c hc)
    (fun _ _ => Iff.rfl) (hl.endpoints k c hc) fun _ _ => rfl

/-- An endpoint is opened. -/
theorem Ledger.openEndpoint (hl : Ledger holds inUse drivers h) (hc : h.claims[k]? = some c)
    (hnot : c.isOver = false) (address : UInt8) (maxPacketSize : Nat) :
    Ledger holds (⟨k, address, maxPacketSize⟩ :: inUse) drivers
      { h with claims := h.claims.modify k fun c => { c with endpoints := address :: c.endpoints } } := by
  refine hl.change hc rfl (AllReleased.modify hl.released hc hnot (by simp [Claim.isOver])) rfl
    (hl.held k c hc) (fun _ _ => Iff.rfl) ?_ fun j hj => ?_
  · rw [List.filter_cons_of_pos (by simp), List.map_cons]
    exact (hl.endpoints k c hc).cons address
  · rw [List.filter_cons_of_neg (by simpa using Ne.symm hj)]

end

/-! ## Calls of the host -/

section

variable {holds : List Nat} {inUse : List OpenEndpoint} {drivers : List UInt8}

/-- A failure that was queued is no event. -/
theorem plain_logged_enter (e : Event) (h : Host) : Plain (h.logged e) (enter e h).2 := by
  unfold enter
  dsimp only
  split <;> exact refl_of Plain _

theorem plain_enter {e : Event} (hreleased : e.released? = none) (hattached : e.attached? = none) :
    Respects Plain (enter e) :=
  fun h => trans_of Plain (plain_logged h hreleased hattached) (plain_logged_enter e h)

theorem plain_modifyAt (place : Nat) (f : Peripheral → Peripheral) :
    Respects Plain (modify fun h => h.modifyAt place f : Request PUnit) :=
  respects_modify fun _ => refl_of Plain _

theorem plain_listDevices : Respects Plain listDevices :=
  (plain_enter rfl rfl).bind fun _ => respects_get.bind fun _ => respects_pure _

theorem plain_setConfiguration (place : Nat) (value : UInt8) :
    Respects Plain (setConfiguration place value) :=
  (plain_enter rfl rfl).bind fun _ => plain_modifyAt place _

theorem plain_detachDriver (place : Nat) (interface : UInt8) :
    Respects Plain (detachDriver place interface) := by
  refine (plain_enter rfl rfl).bind fun _ => respects_get.bind fun h => ?_
  split
  · exact plain_modifyAt place _
  · exact respects_throw _

theorem plain_controlIn (place : Nat) (setup : Setup) (length : UInt16) (timeout : Duration) :
    Respects Plain (controlIn place setup length timeout) := by
  refine Respects.bind (respects_modify fun h => plain_logged h rfl rfl) fun _ =>
    respects_get.bind fun h => ?_
  split
  · split
    · exact Respects.bind (respects_modify fun _ => refl_of Plain _) fun _ =>
        (respects_ofExcept _).bind fun _ => respects_pure _
    · split
      · exact respects_pure _
      · exact respects_throw _
  · exact respects_throw _

theorem plain_transferOut (e : OpenEndpoint) (data : List UInt8) (timeout : Duration) :
    Respects Plain (transferOut e data timeout) := by
  refine Respects.bind (respects_modify fun h => plain_logged h rfl rfl) fun _ =>
    respects_get.bind fun h => respects_get.bind fun h => ?_
  split
  · split
    · exact Respects.bind (respects_modify fun _ => refl_of Plain _) fun _ => respects_ofExcept _
    · exact respects_pure _
  · exact respects_throw _

theorem plain_takeIn {h next : Host} {place : Nat} {address : UInt8}
    {reply : Except TransferError (List UInt8)} (ht : h.takeIn place address = some (reply, next)) :
    Plain h next := by
  simp only [takeIn, Option.bind_eq_bind, Option.bind_eq_some_iff, Option.pure_def,
    Option.some.injEq, Prod.mk.injEq] at ht
  obtain ⟨_, -, _, -, -, rfl⟩ := ht
  exact refl_of Plain _

theorem plain_transferIn (e : OpenEndpoint) (length : Nat) (timeout : Duration) :
    Respects Plain (transferIn e length timeout) := by
  intro h
  have hlogged := plain_logged h (e := .transferIn e.address length timeout) rfl rfl
  unfold transferIn
  dsimp only
  split
  · exact hlogged
  · split
    · exact hlogged
    all_goals
      next ht => exact trans_of Plain hlogged (plain_takeIn ht)

theorem Ledger.isOver_eq_false {h : Host} (hl : Ledger holds inUse drivers h) {k : Nat} {c : Claim}
    (hc : h.claims[k]? = some c) (hk : k ∈ holds) : c.isOver = false := by
  simp [Claim.isOver, (hl.held k c hc).2 hk]

/-- A call that has nothing to do with claims and drivers. -/
theorem Respects.ledger {α ε : Type} {request : ExceptT ε (StateM Host) α}
    (h : Respects Plain request) :
    Ensures (Ledger holds inUse drivers) request (fun _ => Ledger holds inUse drivers) fun _ =>
      Ledger holds inUse drivers :=
  Respects.ensures h fun _ _ hp hl => hl.plain hp

theorem ensures_attachDriver (place : Nat) (interface : UInt8) :
    Ensures (Ledger holds inUse drivers) (attachDriver place interface)
      (fun _ => Ledger holds inUse (drivers ++ [interface])) fun _ =>
        Ledger holds inUse (drivers ++ [interface]) := by
  have henter : Ensures (Ledger holds inUse drivers) (enter (.attachDriver interface))
      (fun _ => Ledger holds inUse (drivers ++ [interface])) fun _ =>
        Ledger holds inUse (drivers ++ [interface]) := by
    intro h hl
    have hreleased : (h.logged (.attachDriver interface)).released = h.released := by
      simp [released, logged, Event.released?]
    have hattached : (h.logged (.attachDriver interface)).attached = drivers ++ [interface] := by
      rw [← hl.attached]
      simp [attached, logged, Event.attached?]
    have hlogged : Ledger holds inUse (drivers ++ [interface]) (h.logged (.attachDriver interface)) :=
      ⟨hl.held, hl.endpoints, hl.lt_of_mem_holds, hl.lt_of_mem_inUse,
        fun i => hreleased ▸ hl.released i, hattached⟩
    have hafter := hlogged.plain (plain_logged_enter _ h)
    split <;> next hr => rwa [hr] at hafter
  refine henter.bind fun _ => ensures_get.bind fun h => ?_
  split
  · exact ensures_throw fun _ => id
  · exact Respects.ledger (plain_modifyAt place _)

theorem ensures_claimInterface (place : Nat) (interface : UInt8) :
    Ensures (Ledger holds inUse drivers) (claimInterface place interface)
      (fun k h => k ∉ holds ∧ Ledger (k :: holds) inUse drivers h) fun _ =>
        Ledger holds inUse drivers := by
  refine (Respects.ledger (plain_enter rfl rfl)).bind fun _ => ensures_get.bind fun h => ?_
  split
  · exact ensures_throw_bind fun _ => id
  · refine ensures_get_self.bind fun counted => ?_
    rintro h ⟨rfl, hl⟩
    exact hl.addClaim place interface

/-- A call that has nothing to do with claims and drivers leaves a claim as it is. -/
theorem Respects.ledgerAt {α ε : Type} {request : ExceptT ε (StateM Host) α}
    (h : Respects Plain request) (k : Nat) (c : Claim) :
    Ensures (fun h => h.claims[k]? = some c ∧ Ledger holds inUse drivers h) request
      (fun _ h => h.claims[k]? = some c ∧ Ledger holds inUse drivers h) fun _ =>
        Ledger holds inUse drivers := by
  have hkeeps := Respects.ensures h (p := fun h => h.claims[k]? = some c ∧ Ledger holds inUse drivers h)
    fun _ _ hp hl => ⟨hp.1 ▸ hl.1, hl.2.plain hp⟩
  exact hkeeps.mono (fun _ _ => id) fun _ _ hl => hl.2

theorem ensures_setAlternate {k : Nat} (hk : k ∈ holds) (alternate : UInt8) :
    Ensures (Ledger holds inUse drivers) (setAlternate k alternate)
      (fun _ => Ledger holds inUse drivers) fun _ => Ledger holds inUse drivers := by
  refine ensures_get_self.bind fun h => ?_
  cases hc : h.claims[k]? with
  | none => exact ensures_throw fun _ hl => hl.2
  | some c =>
    have hentered : Ensures (fun h => h.claims[k]? = some c ∧ Ledger holds inUse drivers h)
        (enter (.setAlternate c.interface alternate))
        (fun _ h => h.claims[k]? = some c ∧ Ledger holds inUse drivers h)
        (fun _ => Ledger holds inUse drivers) :=
      Respects.ledgerAt (plain_enter rfl rfl) k c
    have hset : Ensures (fun h => h.claims[k]? = some c ∧ Ledger holds inUse drivers h)
        (modify fun h => { h with claims := h.claims.modify k fun c => { c with alternate } } :
          Request PUnit) (fun _ => Ledger holds inUse drivers) fun _ => Ledger holds inUse drivers :=
      ensures_modify fun h hl => hl.2.setAlternate hl.1 (hl.2.isOver_eq_false hl.1 hk) alternate
    rintro _ ⟨rfl, hl⟩
    refine Ensures.bind hentered (fun _ => ?_) h ⟨hc, hl⟩
    dsimp only
    split
    · refine ensures_get.bind fun _ => ?_
      split
      · exact ensures_throw_bind fun _ hl => hl.2
      · exact hset
    · exact ensures_throw_bind fun _ hl => hl.2

theorem ensures_openEndpoint {k : Nat} (hk : k ∈ holds) (kind : TransferKind)
    (direction : Direction) (address : UInt8) :
    Ensures (Ledger holds inUse drivers) (openEndpoint k kind direction address)
      (fun e => Ledger holds (e :: inUse) drivers) fun _ => Ledger holds inUse drivers := by
  refine (Respects.ledger (plain_enter rfl rfl)).bind fun _ => ensures_get_self.bind fun h => ?_
  dsimp only
  cases hc : h.claims[k]? with
  | none => exact ensures_throw fun _ hl => hl.2
  | some c =>
    dsimp only
    split
    · exact ensures_throw fun _ hl => hl.2
    · next found _ =>
      split
      · exact ensures_throw_bind fun _ hl => hl.2
      · split
        · exact ensures_throw_bind fun _ hl => hl.2
        · split
          · exact ensures_throw_bind fun _ hl => hl.2
          · refine Ensures.bind (ensures_modify fun s hs => ?_) fun _ => ensures_pure fun _ => id
            obtain ⟨rfl, hl⟩ := hs
            exact hl.openEndpoint hc (hl.isOver_eq_false hc hk) address found.maxPacketSize

end

/-! ## An opened device -/

/-- The endpoints that an opened device has open. -/
def Opened.inUse (o : Opened) : List OpenEndpoint :=
  o.bulkOut.toList ++ o.bulkIn.toList ++ o.interruptIn.toList

theorem Slot.inUse_perm (slot : Slot) (o : Opened) :
    o.inUse.Perm ((slot.get o).toList ++ (slot.set none o).inUse) := by
  cases slot with
  | bulkOut => simp [Opened.inUse, get, set]
  | bulkIn =>
    simp only [Opened.inUse, get, set, Option.toList_none, List.append_nil]
    rw [← List.append_assoc]
    exact List.perm_append_comm.append_right _
  | interruptIn =>
    simp only [Opened.inUse, get, set, Option.toList_none, List.append_nil]
    exact List.perm_append_comm

theorem Slot.get_set (slot : Slot) (e : Option OpenEndpoint) (o : Opened) :
    slot.get (slot.set e o) = e := by
  cases slot <;> rfl

theorem Slot.set_get (slot : Slot) (o : Opened) : slot.set (slot.get o) o = o := by
  cases slot <;> rfl

theorem Slot.set_set (slot : Slot) (e e' : Option OpenEndpoint) (o : Opened) :
    slot.set e (slot.set e' o) = slot.set e o := by
  cases slot <;> rfl

theorem Slot.claim_set (slot : Slot) (e : Option OpenEndpoint) (o : Opened) :
    (slot.set e o).claim = o.claim := by
  cases slot <;> rfl

/-- The claims and endpoints of the host are those of the opened device. -/
def Seat.Accounted (drivers : List UInt8) (s : Seat) : Prop :=
  Ledger s.opened.claim.toList s.opened.inUse drivers s.host

section

variable {holds : List Nat} {drivers : List UInt8} {s : Seat}

theorem opened_closeSlot (slot : Slot) (s : Seat) :
    (closeSlot slot s).opened = slot.set none s.opened := by
  unfold closeSlot
  cases hget : slot.get s.opened with
  | none => exact (hget ▸ slot.set_get s.opened).symm
  | some e => rfl

theorem ledger_closeSlot (slot : Slot) (extra : List OpenEndpoint)
    (hl : Ledger holds (extra ++ s.opened.inUse) drivers s.host) :
    Ledger holds (extra ++ (slot.set none s.opened).inUse) drivers (closeSlot slot s).host := by
  have hperm := slot.inUse_perm s.opened
  unfold closeSlot
  cases hget : slot.get s.opened with
  | none =>
    rw [hget] at hperm
    exact hl.perm (.refl _) (hperm.append_left extra)
  | some e =>
    rw [hget] at hperm
    refine Ledger.closeEndpoint (hl.perm (.refl _) ?_)
    exact (hperm.append_left extra).trans List.perm_middle

theorem ledger_letGoOfClaim {inUse : List OpenEndpoint} (hnot : ∀ k ∈ s.opened.claim, k ∉ holds)
    (hl : Ledger (s.opened.claim.toList ++ holds) inUse drivers s.host) :
    Ledger holds inUse drivers (letGoOfClaim s).host := by
  unfold letGoOfClaim
  cases hclaim : s.opened.claim with
  | none =>
    rw [hclaim] at hl
    exact hl
  | some k =>
    rw [hclaim] at hl
    exact Ledger.dropClaim hl (hnot k hclaim)

theorem opened_letGoOfClaim (s : Seat) :
    (letGoOfClaim s).opened = { s.opened with claim := none } := by
  obtain ⟨⟨place, claim, bulkOut, bulkIn, interruptIn⟩, host⟩ := s
  cases claim <;> rfl

theorem opened_closeSlots (s : Seat) :
    (closeSlot .interruptIn (closeSlot .bulkIn (closeSlot .bulkOut s))).opened =
      { place := s.opened.place, claim := s.opened.claim } := by
  rw [opened_closeSlot, opened_closeSlot, opened_closeSlot]
  rfl

/-- Closing all endpoints leaves none in use. -/
theorem ledger_closeSlots (hl : Ledger holds s.opened.inUse drivers s.host) :
    Ledger holds [] drivers (closeSlot .interruptIn (closeSlot .bulkIn (closeSlot .bulkOut s))).host := by
  have hout := ledger_closeSlot .bulkOut [] hl
  rw [← opened_closeSlot] at hout
  have hin := ledger_closeSlot .bulkIn [] hout
  rw [← opened_closeSlot] at hin
  have hinterrupt := ledger_closeSlot .interruptIn [] hin
  rw [opened_closeSlot, opened_closeSlot] at hinterrupt
  exact hinterrupt

/-- When a device is let go of, nothing is held any more. -/
theorem ledger_letGoOfDevice (hs : s.Accounted drivers) :
    Ledger [] [] drivers (letGoOfDevice s).host := by
  have hclaim : Ledger [] s.opened.inUse drivers (letGoOfClaim s).host :=
    ledger_letGoOfClaim (fun _ _ => List.not_mem_nil) (by rw [List.append_nil]; exact hs)
  refine ledger_closeSlots ?_
  rw [opened_letGoOfClaim]
  exact hclaim

/-- A release leaves nothing held. -/
theorem accounted_releaseAll (hs : s.Accounted drivers) : (releaseAll s).Accounted drivers := by
  have hslots := ledger_closeSlots hs
  have hclaim : Ledger [] [] drivers (releaseAll s).host := by
    refine ledger_letGoOfClaim (fun _ _ => List.not_mem_nil) ?_
    rw [opened_closeSlots, List.append_nil]
    exact hslots
  have hopened : (releaseAll s).opened = { place := s.opened.place } := by
    rw [releaseAll, opened_letGoOfClaim, opened_closeSlots]
  rw [Seat.Accounted, hopened]
  exact hclaim

/-! ## Calls of an opened device -/

/-- A call of the host from an opened device. -/
theorem ensures_ask {α : Type} {p : Opened → Host → Prop} {q : α → Opened → Host → Prop}
    {r : Opened → Host → Prop} (error : String → BusError) {request : Request α}
    (h : ∀ o, Ensures (p o) request (fun a => q a o) fun _ => r o) :
    Ensures (fun s => p s.opened s.host) (ask error request) (fun a s => q a s.opened s.host)
      fun _ s => r s.opened s.host := by
  intro s hs
  have hasked := h s.opened s.host hs
  unfold ask
  generalize request s.host = answered at *
  rcases answered with ⟨e | a, host⟩ <;> exact hasked

/-- A transfer from an opened device. -/
theorem ensures_carry {α : Type} (endpoint : UInt8) (timeout : Duration) {transfer : Transfer α}
    (h : Respects Plain transfer) :
    Ensures (Seat.Accounted drivers) (carry endpoint timeout transfer)
      (fun _ => Seat.Accounted drivers) fun _ => Seat.Accounted drivers := by
  intro s hs
  have hcarried : Seat.Accounted drivers { s with host := (transfer s.host).2 } := hs.plain (h s.host)
  unfold carry
  generalize transfer s.host = answered at *
  rcases answered with ⟨e | a, host⟩ <;> exact hcarried

/-- A call of the host that has nothing to do with claims and drivers. -/
theorem ensures_ask_plain {α : Type} (error : String → BusError) {request : Request α}
    (h : Respects Plain request) :
    Ensures (Seat.Accounted drivers) (ask error request) (fun _ => Seat.Accounted drivers) fun _ =>
      Seat.Accounted drivers :=
  ensures_ask error (p := fun o => Ledger o.claim.toList o.inUse drivers) fun _ => Respects.ledger h

theorem ensures_endpointFor (slot : Slot) (address : UInt8) :
    Ensures (Seat.Accounted drivers) (endpointFor slot address) (fun _ => Seat.Accounted drivers)
      fun _ => Seat.Accounted drivers := by
  refine ensures_get_self.bind fun s => ?_
  split
  · exact ensures_pure fun _ hs => hs.2
  · split
    · exact ensures_throw fun _ hs => hs.2
    · next claim hclaim =>
      have hopen : Ensures (fun s' => s = s' ∧ s'.Accounted drivers)
          (ask .transferFailed (openEndpoint claim slot.kind slot.direction address))
          (fun e s => Ledger s.opened.claim.toList (e :: s.opened.inUse) drivers s.host)
          (fun _ => Seat.Accounted drivers) := by
        rintro _ ⟨rfl, hs⟩
        have hmem : claim ∈ s.opened.claim.toList := by simp [hclaim]
        have hasked : Ensures (Ledger s.opened.claim.toList s.opened.inUse drivers)
            (openEndpoint claim slot.kind slot.direction address) _ _ :=
          ensures_openEndpoint hmem slot.kind slot.direction address
        have hopened := hasked s.host hs
        unfold ask
        generalize openEndpoint claim slot.kind slot.direction address s.host = answered at *
        rcases answered with ⟨e | a, host⟩ <;> exact hopened
      refine hopen.bind fun e => Ensures.bind (ensures_modify fun s hs => ?_) fun _ =>
        ensures_pure fun _ => id
      have hclosed := ledger_closeSlot slot [e] hs
      rw [Seat.Accounted]
      dsimp only
      rw [opened_closeSlot, Slot.set_set, Slot.claim_set]
      refine hclosed.perm (.refl _) ?_
      have hperm := slot.inUse_perm (slot.set (some e) s.opened)
      rw [slot.get_set, slot.set_set] at hperm
      exact hperm.symm

theorem ensures_readFrom (slot : Slot) (address : UInt8) (maxLength : Nat) (timeout : Duration) :
    Ensures (Seat.Accounted drivers) (readFrom slot address maxLength timeout)
      (fun _ => Seat.Accounted drivers) fun _ => Seat.Accounted drivers :=
  (ensures_endpointFor slot address).bind fun e =>
    ensures_carry address timeout (plain_transferIn e _ timeout)

/-- A claim that is made stands beside the one of the device, which it then replaces. -/
def Seat.Claiming (k : Nat) (drivers : List UInt8) (s : Seat) : Prop :=
  k ∉ s.opened.claim.toList ∧ Ledger (k :: s.opened.claim.toList) s.opened.inUse drivers s.host

theorem ensures_claim (interface alternate : UInt8) :
    Ensures (Seat.Accounted drivers) (claim interface alternate) (fun _ => Seat.Accounted drivers)
      fun _ => Seat.Accounted drivers := by
  refine ensures_get.bind fun s => ?_
  have hmade : Ensures (Seat.Accounted drivers)
      (ask (.claimFailed interface) (claimInterface s.opened.place interface))
      (fun k => Seat.Claiming k drivers) fun _ => Seat.Accounted drivers :=
    ensures_ask _ (p := fun o => Ledger o.claim.toList o.inUse drivers) fun _ =>
      ensures_claimInterface _ _
  refine hmade.bind fun k => ?_
  have hput : Ensures (Seat.Claiming k drivers)
      (modify fun s => { letGoOfClaim s with opened.claim := some k } : OnDevice PUnit)
      (fun _ => Seat.Accounted drivers) fun _ => Seat.Accounted drivers := by
    refine ensures_modify fun s hs => ?_
    have hlet : Ledger [k] s.opened.inUse drivers (letGoOfClaim s).host := by
      refine ledger_letGoOfClaim (fun j hj hmem => ?_)
        (hs.2.perm (List.perm_append_singleton k _).symm (.refl _))
      obtain rfl := List.mem_singleton.1 hmem
      exact hs.1 (Option.mem_toList.2 hj)
    dsimp only [Seat.Accounted]
    rw [opened_letGoOfClaim]
    exact hlet
  dsimp only
  split
  · have hset : Ensures (Seat.Claiming k drivers)
        (ask (.claimFailed interface) (setAlternate k alternate))
        (fun _ => Seat.Claiming k drivers) fun _ => Seat.Claiming k drivers := by
      unfold Seat.Claiming
      refine ensures_ask _ (p := fun o h => k ∉ o.claim.toList ∧
        Ledger (k :: o.claim.toList) o.inUse drivers h)
        (q := fun _ o h => k ∉ o.claim.toList ∧ Ledger (k :: o.claim.toList) o.inUse drivers h)
        (r := fun o h => k ∉ o.claim.toList ∧ Ledger (k :: o.claim.toList) o.inUse drivers h)
        fun o => ensures_of_and fun hk => ?_
      exact (ensures_setAlternate List.mem_cons_self alternate).mono (fun _ _ hl => ⟨hk, hl⟩)
        fun _ _ hl => ⟨hk, hl⟩
    refine Ensures.bind (hset.tryCatch fun e => ?_) fun _ => hput
    refine Ensures.bind (ensures_modify (r := Seat.Accounted drivers) fun s hs => ?_) fun _ =>
      ensures_throw fun _ => id
    exact hs.2.dropClaim hs.1
  · exact hput

end

end Host

/-- The interface that a call attaches a driver to, if it is this call. -/
def Usb.Call.attaches : Call → List UInt8
  | attachDriver interface => [interface]
  | _ => []

/-- Whatever call is made of an opened device, the claims and endpoints of the host are those of the
device, and only the attaching of a driver attaches one. -/
theorem Host.ensures_perform {drivers : List UInt8} (c : Call) :
    Ensures (Seat.Accounted drivers) (perform c) (fun _ => Seat.Accounted (drivers ++ c.attaches))
      fun _ => Seat.Accounted (drivers ++ c.attaches) := by
  cases c with
  | attachDriver interface =>
    refine ensures_get.bind fun s => ?_
    exact ensures_ask _ (p := fun o => Ledger o.claim.toList o.inUse drivers)
      (q := fun _ o => Ledger o.claim.toList o.inUse (drivers ++ [interface]))
      fun _ => ensures_attachDriver _ _
  | setConfiguration value =>
    simp only [Call.attaches, List.append_nil]
    exact ensures_get.bind fun s => ensures_ask_plain _ (plain_setConfiguration _ value)
  | detachDriver interface =>
    simp only [Call.attaches, List.append_nil]
    refine Ensures.tryCatch ?_ fun _ => ensures_pure fun _ => id
    exact ensures_get.bind fun s =>
      (ensures_ask_plain _ (plain_detachDriver _ interface)).bind fun _ => ensures_pure fun _ => id
  | claim interface alternate =>
    simp only [Call.attaches, List.append_nil]
    exact ensures_claim interface alternate
  | release interface =>
    simp only [Call.attaches, List.append_nil]
    exact ensures_modify fun s hs => accounted_releaseAll hs
  | controlIn setup length timeout =>
    simp only [Call.attaches, List.append_nil]
    refine ensures_get.bind fun s => ?_
    dsimp only
    split
    · exact ensures_throw_bind fun _ => id
    · exact ensures_carry _ _ (plain_controlIn _ setup length timeout)
  | bulkOut endpoint data timeout =>
    simp only [Call.attaches, List.append_nil]
    exact (ensures_endpointFor _ endpoint).bind fun e =>
      ensures_carry _ _ (plain_transferOut e data timeout)
  | bulkIn endpoint maxLength timeout =>
    simp only [Call.attaches, List.append_nil]
    exact ensures_readFrom _ endpoint maxLength timeout
  | interruptIn endpoint maxLength timeout =>
    simp only [Call.attaches, List.append_nil]
    exact ensures_readFrom _ endpoint maxLength timeout
  | clearHalt endpoint =>
    simp only [Call.attaches, List.append_nil]
    exact (ensures_endpointFor _ endpoint).bind fun e =>
      ensures_ask_plain _ (plain_enter (e := .clearHalt e.address) rfl rfl)

end Benchtop
