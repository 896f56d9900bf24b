import Benchtop.Link.Opening
import Benchtop.Proofs.Trace

/-!
# What is chosen of a device

A link is made with one configuration of a device, one interface of that and two or three endpoints of
the interface. All of these are the first of their kind, in the order in which the device describes them,
and a `Choice` is for a device (`Choice.IsFor`) if it is made of such firsts. Each step of choosing gives
what the step of `Choice.IsFor` says, and fails where there is no such thing
(`chooseConfiguration_eq_ok_iff`, `chooseInterface_eq_ok_iff`, `findEndpoints_eq_ok_iff`).

`Tells` says of an answer that it tells the capabilities of an interface (`tells_of_parse`,
`Tells.exists_parse`).
-/

namespace Benchtop

open Usb Wire

/-! ## Firsts -/

/-- `a` is the first of the list with the property. -/
def IsFirst {α : Type} (p : α → Prop) (as : List α) (a : α) : Prop :=
  ∃ before after, as = before ++ a :: after ∧ p a ∧ ∀ b ∈ before, ¬ p b

theorem find?_eq_some_iff_isFirst {α : Type} {p : α → Bool} {as : List α} {a : α} :
    as.find? p = some a ↔ IsFirst (fun a => p a) as a := by
  rw [List.find?_eq_some_iff_append]
  constructor
  · rintro ⟨ha, before, after, rfl, hbefore⟩
    exact ⟨before, after, rfl, ha, fun b hb => by simpa using hbefore b hb⟩
  · rintro ⟨before, after, rfl, ha, hbefore⟩
    exact ⟨ha, before, after, rfl, fun b hb => by simpa using hbefore b hb⟩

theorem IsFirst.mem {α : Type} {p : α → Prop} {as : List α} {a : α} (h : IsFirst p as a) :
    a ∈ as ∧ p a := by
  obtain ⟨before, after, rfl, ha, -⟩ := h
  exact ⟨by simp, ha⟩

/-- What comes first does not depend on how the property is stated. -/
theorem isFirst_congr {α : Type} {p q : α → Prop} {as : List α} {a : α}
    (h : ∀ b ∈ as, p b ↔ q b) : IsFirst p as a ↔ IsFirst q as a := by
  constructor
  · rintro ⟨before, after, rfl, ha, hbefore⟩
    refine ⟨before, after, rfl, (h a (by simp)).1 ha, fun b hb hq => hbefore b hb ?_⟩
    exact (h b (List.mem_append_left _ hb)).2 hq
  · rintro ⟨before, after, rfl, ha, hbefore⟩
    refine ⟨before, after, rfl, (h a (by simp)).2 ha, fun b hb hp => hbefore b hb ?_⟩
    exact (h b (List.mem_append_left _ hb)).1 hp

/-! ## Endpoints -/

/-- The first endpoint of this kind and direction has this address. -/
def Usb.Interface.HasEndpoint (interface : Interface) (kind : TransferKind) (direction : Direction)
    (address : UInt8) : Prop :=
  ∃ e, IsFirst (fun e : Endpoint => e.kind = kind ∧ e.direction = direction) interface.endpoints e ∧
    e.address = address

theorem Usb.Interface.endpoint?_eq_some_iff {interface : Interface} {kind : TransferKind}
    {direction : Direction} {address : UInt8} :
    interface.endpoint? kind direction = some address ↔
      interface.HasEndpoint kind direction address := by
  simp only [endpoint?, Option.map_eq_some_iff, find?_eq_some_iff_isFirst, Bool.and_eq_true,
    beq_iff_eq, HasEndpoint]

variable {σ : Type}

/-- A call succeeds if it is answered. -/
theorem Usb.Device.call_eq_ok_iff {dev : Device σ} {call : Call} {answer : call.Answer} {s t : σ} :
    dev.call call s = (.ok answer, t) ↔ dev.Trace s [⟨call, .ok answer⟩] t := by
  rw [Device.call]
  constructor
  · rcases h : dev.perform call s with ⟨e | _, _⟩
    · exact nofun
    · intro hok
      cases hok
      exact ⟨_, h, rfl⟩
  · rintro ⟨u, h, rfl⟩
    rw [h]
    rfl

namespace Link

/-- The endpoints are those that the interface has for messages, and for notifications if it has one for
those. -/
structure Fits (interface : Interface) (endpoints : Endpoints) : Prop where
  bulkOut : interface.HasEndpoint .bulk .output endpoints.bulkOut
  bulkIn : interface.HasEndpoint .bulk .input endpoints.bulkIn
  interruptIn : ∀ address,
    endpoints.interruptIn = some address ↔ interface.HasEndpoint .interrupt .input address

theorem findEndpoints_eq_ok_iff {interface : Interface} {endpoints : Endpoints} :
    findEndpoints interface = .ok endpoints ↔ Fits interface endpoints := by
  constructor
  · intro h
    unfold findEndpoints at h
    split at h
    · cases h
    · cases h
    · next bulkOut bulkIn hout hin =>
      cases h
      exact ⟨Interface.endpoint?_eq_some_iff.1 hout, Interface.endpoint?_eq_some_iff.1 hin,
        fun _ => Interface.endpoint?_eq_some_iff⟩
  · intro h
    have hout := Interface.endpoint?_eq_some_iff.2 h.bulkOut
    have hin := Interface.endpoint?_eq_some_iff.2 h.bulkIn
    have hinterrupt : interface.endpoint? .interrupt .input = endpoints.interruptIn :=
      Option.ext fun address => Interface.endpoint?_eq_some_iff.trans (h.interruptIn address).symm
    simp only [findEndpoints, hout, hin, hinterrupt]

/-! ## Interfaces -/

/-- The interface is in use and of the instrument class. The class may be another one if the device is an
instrument whatever the classes of its interfaces are, and has none of the instrument class. -/
def IsUsable (info : DeviceInfo) (configuration : Configuration) (interface : Interface) : Prop :=
  interface.alternate = 0 ∧
    (interface.isInstrument ∨
      isAllowListed info.vendor info.product ∧
        ∀ other ∈ configuration.interfaces, other.alternate = 0 → ¬ other.isInstrument)

theorem chooseInterface_eq_ok_iff {info : DeviceInfo} {configuration : Configuration}
    {interface : Interface} :
    chooseInterface info configuration = .ok interface ↔
      IsFirst (IsUsable info configuration) configuration.interfaces interface := by
  have hinstrument (i : Interface) :
      configuration.interfaces.find? (fun i => i.alternate == 0 && i.isInstrument) = some i ↔
        IsFirst (fun i => i.alternate = 0 ∧ i.isInstrument) configuration.interfaces i := by
    simp only [find?_eq_some_iff_isFirst, Bool.and_eq_true, beq_iff_eq]
  have hinUse (i : Interface) :
      configuration.interfaces.find? (fun i => i.alternate == 0) = some i ↔
        IsFirst (fun i => i.alternate = 0) configuration.interfaces i := by
    simp only [find?_eq_some_iff_isFirst, beq_iff_eq]
  simp only [chooseInterface, List.find?_filter, List.head?_filter, Bool.decide_and,
    Bool.decide_eq_true]
  cases hfound : configuration.interfaces.find? fun i => i.alternate == 0 && i.isInstrument with
  | some first =>
    have husable : ∀ i ∈ configuration.interfaces,
        IsUsable info configuration i ↔ i.alternate = 0 ∧ i.isInstrument := by
      obtain ⟨hmem, halternate, hfirst⟩ := ((hinstrument first).1 hfound).mem
      refine fun i _ => and_congr_right fun _ => ⟨?_, .inl⟩
      rintro (h | ⟨-, hnone⟩)
      · exact h
      · exact absurd hfirst (hnone first hmem halternate)
    rw [isFirst_congr husable, ← hinstrument, hfound]
    exact ⟨fun h => congrArg some (Except.ok.inj h), fun h => congrArg Except.ok (Option.some.inj h)⟩
  | none =>
    have hnone : ∀ i ∈ configuration.interfaces, i.alternate = 0 → ¬ i.isInstrument := by
      intro i hi halternate hi'
      have := List.find?_eq_none.1 hfound i hi
      simp [halternate, hi'] at this
    have husable : ∀ i ∈ configuration.interfaces,
        IsUsable info configuration i ↔ i.alternate = 0 ∧ isAllowListed info.vendor info.product := by
      refine fun i hi => and_congr_right fun halternate => ⟨?_, fun h => .inr ⟨h, hnone⟩⟩
      rintro (h | ⟨h, -⟩)
      · exact absurd h (hnone i hi halternate)
      · exact h
    rw [isFirst_congr husable]
    by_cases hlisted : isAllowListed info.vendor info.product
    · simp only [hlisted, and_true, ← hinUse, if_true]
      cases configuration.interfaces.find? fun i => i.alternate == 0 <;> simp
    · simp [hlisted, IsFirst]

/-! ## Configurations -/

/-- The value of the active configuration, or else of the first one that is described. -/
def configurationValue? (dev : Device σ) (s : σ) : Option UInt8 :=
  dev.active s <|> (dev.configurations s).head?.map (·.value)

/-- The configuration is set although one may be active. -/
def reconfigures (dev : Device σ) (force : Bool) (s : σ) : Bool := (dev.active s).isNone || force

/-- Setting a configuration, where that is done. -/
def setting (sets : Bool) (value : UInt8) : List Event :=
  if sets then [⟨.setConfiguration value, .ok ()⟩] else []

/-- The first configuration that is described under a value. -/
def configurationOf (dev : Device σ) (value : UInt8) (s : σ) : Except Failure Configuration :=
  match (dev.configurations s).find? (·.value == value) with
  | some configuration => .ok configuration
  | none => .error (.notSupported (.configurationNotDescribed value))

theorem configurationOf_eq_ok_iff {dev : Device σ} {value : UInt8} {s : σ}
    {configuration : Configuration} :
    configurationOf dev value s = .ok configuration ↔
      IsFirst (fun other => other.value = value) (dev.configurations s) configuration := by
  have hfirst : (dev.configurations s).find? (·.value == value) = some configuration ↔ _ :=
    find?_eq_some_iff_isFirst
  simp only [beq_iff_eq] at hfirst
  rw [configurationOf, ← hfirst]
  cases (dev.configurations s).find? (·.value == value) <;> simp

theorem chooseConfiguration_apply (dev : Device σ) (force : Bool) (s : σ) :
    chooseConfiguration dev force s =
      match configurationValue? dev s with
      | none => (.error (.notSupported .noConfigurations), s)
      | some value =>
        match if reconfigures dev force s then dev.call (.setConfiguration value) s else (.ok (), s) with
        | (.error e, t) => (.error e, t)
        | (.ok _, t) => (configurationOf dev value s, t) := by
  let described (value : UInt8) : Action σ Configuration :=
    match (dev.configurations s).find? (·.value == value) with
    | some configuration => pure configuration
    | none => throw (.notSupported (.configurationNotDescribed value))
  have hdescribed (value : UInt8) (t : σ) : described value t = (configurationOf dev value s, t) := by
    dsimp only [described, configurationOf]
    cases (dev.configurations s).find? (·.value == value) <;> rfl
  have hset (value : UInt8) :
      (dev.call (.setConfiguration value) >>= fun _ => described value) s =
        match dev.call (.setConfiguration value) s with
        | (.error e, t) => (.error e, t)
        | (.ok _, t) => (configurationOf dev value s, t) := by
    rw [bind_apply]
    rcases dev.call (.setConfiguration value) s with ⟨e | _, t⟩
    · rfl
    · exact hdescribed value t
  rw [chooseConfiguration, get_bind_apply, configurationValue?, reconfigures]
  cases dev.active s with
  | none =>
    cases (dev.configurations s).head? with
    | none => rfl
    | some first => exact hset first.value
  | some value =>
    cases force with
    | false => exact hdescribed value s
    | true => exact hset value

/-- A configuration is chosen if it is the first that is described under the value to use, and setting it,
where that is done, succeeds. -/
theorem chooseConfiguration_eq_ok_iff {dev : Device σ} {force : Bool} {s t : σ}
    {configuration : Configuration} :
    chooseConfiguration dev force s = (.ok configuration, t) ↔
      configurationValue? dev s = some configuration.value ∧
        IsFirst (fun other => other.value = configuration.value) (dev.configurations s) configuration ∧
        dev.Trace s (setting (reconfigures dev force s) configuration.value) t := by
  have hset (value : UInt8) (u : σ) :
      (if reconfigures dev force s then dev.call (.setConfiguration value) s else (.ok (), s)) =
          (.ok (), u) ↔ dev.Trace s (setting (reconfigures dev force s) value) u := by
    rw [setting]
    split
    · exact Device.call_eq_ok_iff
    · exact ⟨fun h => (Prod.mk.inj h).2, fun h => congrArg (Prod.mk _) h⟩
  rw [chooseConfiguration_apply]
  constructor
  · intro h
    split at h
    · cases h
    · next value hvalue =>
      split at h
      · cases h
      · next u hu =>
        obtain ⟨hfound, rfl⟩ := Prod.mk.inj h
        have hfirst := configurationOf_eq_ok_iff.1 hfound
        obtain rfl : configuration.value = value := hfirst.mem.2
        exact ⟨hvalue, hfirst, (hset _ _).1 hu⟩
  · rintro ⟨hvalue, hconfiguration, ht⟩
    simp only [hvalue, (hset _ _).2 ht, configurationOf_eq_ok_iff.2 hconfiguration]

/-! ## All that is chosen -/

/-- What a link is made with. -/
structure Choice where
  configuration : Configuration
  interface : Interface
  endpoints : Endpoints
  deriving DecidableEq, Repr

/-- The device describes what is chosen, and all of it comes first. -/
structure Choice.IsFor (choice : Choice) (dev : Device σ) (info : DeviceInfo) (s : σ) : Prop where
  value_eq : configurationValue? dev s = some choice.configuration.value
  configuration : IsFirst (fun other => other.value = choice.configuration.value)
    (dev.configurations s) choice.configuration
  interface : IsFirst (IsUsable info choice.configuration) choice.configuration.interfaces
    choice.interface
  endpoints : Fits choice.interface choice.endpoints

/-! ## Capabilities -/

/-- The answer tells the capabilities of an interface: it begins with success, and has as many bytes as
that takes. -/
def Tells (usb488 : Bool) (bytes : List UInt8) : Prop :=
  bytes.head?.map Status.ofCode = some .success ∧ (if usb488 then 16 else 6) ≤ bytes.length

theorem Tells.exists_parse {usb488 : Bool} {bytes : List UInt8} (h : Tells usb488 bytes) :
    ∃ capabilities, Capabilities.parse bytes usb488 = .ok capabilities := by
  obtain ⟨hstatus, hlength⟩ := h
  match bytes with
  | [] => cases hstatus
  | code :: rest =>
    have hcode : Status.ofCode code = .success := Option.some.inj hstatus
    cases usb488 with
    | false =>
      match rest, hlength with
      | _ :: low :: high :: interfaceBits :: deviceBits :: more, _ =>
        refine ⟨.plainFields low high interfaceBits deviceBits, ?_⟩
        simp only [Capabilities.parse, hcode]
        rfl
    | true =>
      match rest, hlength with
      | _ :: low :: high :: interfaceBits :: deviceBits :: _ :: _ :: _ :: _ :: _ :: _ :: low' :: high' ::
          interfaceBits' :: deviceBits' :: _, _ =>
        refine ⟨(Capabilities.plainFields low high interfaceBits deviceBits).withExtendedFields low' high'
          interfaceBits' deviceBits', ?_⟩
        simp only [Capabilities.parse, hcode]
        rfl

theorem tells_of_parse {usb488 : Bool} {bytes : List UInt8} {capabilities : Capabilities}
    (h : Capabilities.parse bytes usb488 = .ok capabilities) : Tells usb488 bytes := by
  unfold Capabilities.parse at h
  split at h
  · cases h
  · next code rest =>
    dsimp only at h
    split at h
    · cases h
    · next hstatus =>
      have hstatus : Status.ofCode code = .success := Decidable.of_not_not hstatus
      split at h
      · split at h
        · next hplain =>
          obtain rfl : usb488 = false := by simpa using hplain
          exact ⟨congrArg some hstatus, by simp⟩
        · next hplain =>
          obtain rfl : usb488 = true := by simpa using hplain
          split at h
          · exact ⟨congrArg some hstatus, by simp⟩
          · cases h
      · cases h

end Link

end Benchtop
