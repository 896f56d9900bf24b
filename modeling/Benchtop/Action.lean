import Benchtop.Failure
import Benchtop.Usb.Device

/-!
# Actions

An `Action σ α` works on a state `σ` and gives a result or a failure. The state that it reached is
kept either way: what a failed action has done to a device stays done.
-/

namespace Benchtop

open Usb

variable {σ : Type}

abbrev Action (σ : Type) := ExceptT Failure (StateM σ)

/-- An action that does not fail: its outcome is a value. -/
def Action.outcome {α : Type} (action : Action σ α) : StateM σ (Except Failure α) := action.run

/-- Makes a call of a device; its failure is the action's. -/
def Usb.Device.call (dev : Device σ) (c : Call) : Action σ c.Answer := fun s =>
  let (answer, s) := dev.perform c s
  (answer.mapError Failure.bus, s)

end Benchtop
