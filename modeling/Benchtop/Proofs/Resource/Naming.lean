import Benchtop.Proofs.Resource.Listing
import Benchtop.Proofs.Resource.Shorthand

/-!
# The names of a device

An instrument is named by an address, by the shorthand, by an address that has been read, or by ids and
a serial number (`Address.names`). All of them ask the same of a device (`selector_of_mem_names`), so
they come to the same on a bus, but for the name that a failure shows (`Verdict`).

Main statement: all names of an address come to the same, also on a bus that lists its devices in
another order, and with a product id of the same module in another mode. The device that they come to
is the only one of its vendor, its product in normal use and its serial number (`resolve_names`).
-/

namespace Benchtop

open Usb

variable {σ σ' : Type}

/-! ## Names and verdicts -/

/-- The resource of the ids of an address. -/
def Address.tuple (a : Address) : Resource :=
  match a.serial with
  | none => .ofIds a.vendor a.product
  | some serial => .ofIdsAndSerial a.vendor a.product serial

/-- All the ways to name what an address means: its printed form, the shorthand, the address itself, and
its ids. -/
def Address.names (a : Address) : List Resource :=
  [.named a.toText, .named (Resource.ofAddress a).describe, .ofAddress a, a.tuple]

/-- What resolving a name comes to. A name that means no device, or several, is shown in the failure;
the verdict leaves it out. -/
inductive Verdict where
  | found (info : DeviceInfo)
  | absent
  | several (count : Nat)
  | failed (failure : Failure)
  deriving DecidableEq, Repr

def verdict : Except Failure DeviceInfo → Verdict
  | .ok info => .found info
  | .error (.notFound _) => .absent
  | .error (.ambiguous _ count) => .several count
  | .error failure => .failed failure

/-- What the devices come to that a name selects. -/
def Verdict.ofSelected : List DeviceInfo → Verdict
  | [] => absent
  | [info] => found info
  | selected => several selected.length

theorem verdict_eq_found {answer : Except Failure DeviceInfo} {info : DeviceInfo} :
    verdict answer = .found info ↔ answer = .ok info := by
  unfold verdict
  split <;> simp

/-- Two addresses of one module, which may be given in either mode. -/
def Address.SameModule (a b : Address) : Prop :=
  b.vendor = a.vendor ∧ normalProduct b.vendor b.product = normalProduct a.vendor a.product ∧
    b.serial = a.serial

instance (a b : Address) : Decidable (a.SameModule b) :=
  inferInstanceAs (Decidable (_ ∧ _ ∧ _))

/-- Two listings of the same devices, in any order, or the same failure. -/
inductive SameListing : Except BusError (List DeviceInfo) → Except BusError (List DeviceInfo) → Prop
  | devices {attached attached' : List DeviceInfo} (h : attached.Perm attached') :
    SameListing (.ok attached) (.ok attached')
  | failure (e : BusError) : SameListing (.error e) (.error e)

/-! ## What is asked of a device -/

/-- Every name of an address asks of a device what the address does. -/
theorem selector_of_mem_names {a : Address} (ha : a.IsShort) {name : Resource}
    (h : name ∈ a.names) : name.selector = .ok (.inr (Selector.ofAddress a)) := by
  simp only [Address.names, List.mem_cons, List.not_mem_nil, or_false] at h
  obtain rfl | rfl | rfl | rfl := h
  · rw [Resource.selector, Selector.parse_toText, if_pos ha.readable]
    rfl
  · rw [Resource.selector, Selector.parse_describe ha]
    rfl
  · rfl
  · rw [Address.tuple]
    cases hserial : a.serial <;> simp [Resource.ofIds, Resource.ofIdsAndSerial, Resource.ofAddress,
      Resource.selector, Selector.ofAddress, hserial]

theorem verdict_pick (s : Selector) (name : Resource) (devices : List DeviceInfo) :
    verdict (s.pick name devices) = .ofSelected (devices.filter s.selects) := by
  unfold Selector.pick
  generalize devices.filter s.selects = selected
  match selected with
  | [] => rfl
  | [info] => rfl
  | first :: second :: rest => rfl

/-- The order of the devices does not matter. -/
theorem Verdict.ofSelected_perm {selected selected' : List DeviceInfo}
    (h : selected.Perm selected') : ofSelected selected = ofSelected selected' := by
  match selected, selected', h.length_eq with
  | [], [], _ => rfl
  | [info], [info'], _ => rw [List.singleton_perm_singleton.1 h]
  | first :: second :: rest, first' :: second' :: rest', hlength =>
    rw [ofSelected, ofSelected, hlength] <;> nofun

/-- One device and no other is found. -/
theorem Verdict.ofSelected_eq_found {selected : List DeviceInfo} {info : DeviceInfo} :
    ofSelected selected = found info ↔ selected = [info] := by
  match selected with
  | [] => simp [ofSelected]
  | [info'] => simp [ofSelected]
  | first :: second :: rest => simp [ofSelected]

/-! ## Resolving -/

/-- What a name comes to on a bus. -/
theorem verdict_resolve {bus : Bus σ} {a : Address} (ha : a.IsShort) {name : Resource}
    (hname : name ∈ a.names) (s : σ) :
    verdict (resolve bus name s).1 =
      match (bus.enumerate s).1 with
      | .error e => .failed (.bus e)
      | .ok attached => .ofSelected (attached.filter (a.Means ·)) := by
  rw [resolve, selector_of_mem_names ha hname]
  simp only [MonadExcept.ofExcept, pure_bind]
  rw [bind_apply, attachedDevices]
  rcases bus.enumerate s with ⟨e | attached, t⟩
  · rfl
  · have hfilter : attached.filter (Selector.ofAddress a).selects = attached.filter (a.Means ·) :=
      List.filter_congr fun info _ => Selector.selects_ofAddress a info
    dsimp only [mapError_ok]
    rw [← hfilter, ← verdict_pick _ name]
    cases (Selector.ofAddress a).pick name attached <;> rfl

theorem means_of_sameModule {a a' : Address} (h : a.SameModule a') (info : DeviceInfo) :
    a'.Means info ↔ a.Means info := by
  obtain ⟨hvendor, hproduct, hserial⟩ := h
  rw [hvendor] at hproduct
  rw [Address.Means, Address.Means, hvendor, hproduct, hserial]

/-- On any bus, all names of an address come to the same: the same device, no device, as many devices,
or the same failure of the bus. It is the same on any other bus that lists these devices in some order,
and for an address with the other product id of the module. A device is found exactly if it is the only
one on the bus that the address can mean. -/
theorem resolve_names {bus : Bus σ} {bus' : Bus σ'} {s : σ} {s' : σ'}
    (hlisting : SameListing (bus.enumerate s).1 (bus'.enumerate s').1) {a a' : Address}
    (ha : a.IsShort) (hmodule : a.SameModule a') {name name' : Resource} (hname : name ∈ a.names)
    (hname' : name' ∈ a'.names) :
    verdict (resolve bus name s).1 = verdict (resolve bus' name' s').1 ∧
      ∀ info, (resolve bus name s).1 = .ok info ↔
        ∃ attached, (bus.enumerate s).1 = .ok attached ∧
          attached.filter (a.Means ·) = [info] := by
  have ha' : a'.IsShort := by
    unfold Address.IsShort
    rw [hmodule.2.2]
    exact ha
  refine ⟨?_, fun info => ?_⟩
  · rw [verdict_resolve ha hname, verdict_resolve ha' hname']
    generalize (bus.enumerate s).1 = answer at hlisting
    generalize (bus'.enumerate s').1 = answer' at hlisting
    cases hlisting with
    | failure e => rfl
    | devices h =>
      have hsame : ∀ info, decide (a'.Means info) = decide (a.Means info) := fun info =>
        decide_eq_decide.2 (means_of_sameModule hmodule info)
      simp only [hsame]
      exact Verdict.ofSelected_perm (h.filter _)
  · rw [← verdict_eq_found, verdict_resolve ha hname]
    cases (bus.enumerate s).1 with
    | error e => simp
    | ok attached => simp [Verdict.ofSelected_eq_found]

/-- A module whose firmware is updated is found by the shorthand with its id of this mode, and on the bus
in the other order by the address with its id in normal use. -/
theorem resolve_names_updateMode :
    let updating : DeviceInfo := ⟨0x0957, 0x2818, some "A 1", "mock", 1, []⟩
    let other : DeviceInfo := ⟨0x0957, 0x2918, some "A 2", "mock", 2, []⟩
    (resolve ScriptedBus.behaviour (.named "0957:2818:A 1") (busOf [updating, other])).1 =
        .ok updating ∧
      (resolve ScriptedBus.behaviour (.named "USB::0x0957::0x2918::A 1::INSTR")
        (busOf [other, updating])).1 = .ok updating := by
  intro updating other
  have henumerate := enumerate_busOf [updating, other]
  have henumerate' := enumerate_busOf [other, updating]
  have hlisting : SameListing (ScriptedBus.behaviour.enumerate (busOf [updating, other])).1
      (ScriptedBus.behaviour.enumerate (busOf [other, updating])).1 := by
    rw [henumerate, henumerate']
    exact .devices (.swap other updating [])
  let a : Address := ⟨0x0957, 0x2818, some "A 1"⟩
  let b : Address := ⟨0x0957, 0x2918, some "A 1"⟩
  have hname : Resource.named "0957:2818:A 1" ∈ a.names := by decide
  have hother : Resource.named "USB::0x0957::0x2918::A 1::INSTR" ∈ b.names := by decide
  have hshort : a.IsShort := by
    rintro serial ⟨⟩
    exact ⟨by decide, by decide, fun c hc => by cases hc; rfl⟩
  have hmodule : a.SameModule b := by decide
  obtain ⟨hsame, hfound⟩ := resolve_names hlisting hshort hmodule hname hother
  have hupdating := (hfound updating).2 ⟨_, henumerate, rfl⟩
  exact ⟨hupdating, verdict_eq_found.1 (hsame.symm.trans (verdict_eq_found.2 hupdating))⟩

end Benchtop
