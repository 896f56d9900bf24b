import Benchtop.Proofs.Action
import Benchtop.Usb.Recorder

/-!
# Calls with their answers

`Device.Trace` says what a device does when calls are made of it one after the other: the answers it
gives, and the state it comes to. A statement about one trace is a statement about every device that
answers so, whatever it would do otherwise. A recorded device has recorded its trace
(`Device.Trace.recorded`), and has nothing else in its record (`Device.Trace.log_eq`).
-/

namespace Benchtop.Usb

variable {σ : Type} {dev : Device σ}

/-- From `s`, the device gives these answers to these calls, made one after the other, and comes to
`t`. -/
def Device.Trace (dev : Device σ) : σ → List Event → σ → Prop
  | s, [], t => s = t
  | s, e :: es, t => ∃ u, dev.perform e.call s = (e.answer, u) ∧ dev.Trace u es t

/-- One call. -/
theorem Device.trace_perform (dev : Device σ) (call : Call) (s : σ) :
    dev.Trace s [⟨call, (dev.perform call s).1⟩] (dev.perform call s).2 :=
  ⟨_, rfl, rfl⟩

namespace Device.Trace

theorem append {s t u : σ} {es es' : List Event} (h : dev.Trace s es t) (h' : dev.Trace t es' u) :
    dev.Trace s (es ++ es') u := by
  induction es generalizing s with
  | nil =>
    obtain rfl : s = t := h
    exact h'
  | cons e es ih =>
    obtain ⟨v, he, h⟩ := h
    exact ⟨v, he, ih h⟩

theorem of_append {s u : σ} {es es' : List Event} (h : dev.Trace s (es ++ es') u) :
    ∃ t, dev.Trace s es t ∧ dev.Trace t es' u := by
  induction es generalizing s with
  | nil => exact ⟨s, rfl, h⟩
  | cons e es ih =>
    obtain ⟨v, he, h⟩ := h
    obtain ⟨t, ht, h⟩ := ih h
    exact ⟨t, ⟨v, he, ht⟩, h⟩

/-- What every call respects, a trace does. -/
theorem related {r : σ → σ → Prop} [Std.Refl r] [IsTrans σ r]
    (hcall : ∀ call, Respects r (dev.perform call)) {s t : σ} {es : List Event}
    (h : dev.Trace s es t) : r s t := by
  induction es generalizing s with
  | nil =>
    obtain rfl : s = t := h
    exact refl_of r s
  | cons e es ih =>
    obtain ⟨u, he, h⟩ := h
    have hu := hcall e.call s
    rw [he] at hu
    exact trans_of r hu (ih h)

/-- What was recorded of a trace is the trace. -/
theorem recorded {s t : σ} {es : List Event} (h : dev.Trace s es t) (log : List Event) :
    dev.recorded.Trace (s, log) es (t, log ++ es) := by
  induction es generalizing s log with
  | nil =>
    obtain rfl : s = t := h
    simp [Device.Trace]
  | cons e es ih =>
    obtain ⟨u, he, h⟩ := h
    refine ⟨(u, log ++ [e]), ?_, ?_⟩
    · simp [Device.recorded, he]
    · simpa using ih h (log ++ [e])

/-- Recording changes nothing of a trace. -/
theorem of_recorded {s t : σ × List Event} {es : List Event} (h : dev.recorded.Trace s es t) :
    dev.Trace s.1 es t.1 := by
  induction es generalizing s with
  | nil =>
    obtain rfl : s = t := h
    rfl
  | cons e es ih =>
    obtain ⟨u, he, h⟩ := h
    have hanswer : (dev.perform e.call s.1).1 = e.answer := congrArg Prod.fst he
    have hnext : (dev.perform e.call s.1).2 = u.1 := congrArg (fun made => made.2.1) he
    exact ⟨u.1, Prod.ext hanswer hnext, ih h⟩

/-- A recorded device has recorded the trace and nothing else. -/
theorem log_eq {s t : σ × List Event} {es : List Event} (h : dev.recorded.Trace s es t) :
    t.2 = s.2 ++ es := by
  induction es generalizing s with
  | nil =>
    obtain rfl : s = t := h
    simp
  | cons e es ih =>
    obtain ⟨u, he, h⟩ := h
    have hanswer : (dev.perform e.call s.1).1 = e.answer := congrArg Prod.fst he
    have hlog : u.2 = s.2 ++ [⟨e.call, (dev.perform e.call s.1).1⟩] := by
      rw [show u = (dev.recorded.perform e.call s).2 from (congrArg Prod.snd he).symm]
      rfl
    rw [ih h, hlog, hanswer, List.append_assoc]
    rfl

/-- A recorded bus has recorded the trace of one of its devices and nothing else. -/
theorem busLog_eq {bus : Bus σ} {number : Nat} {s t : σ × List BusEvent} {es : List Event}
    (h : (bus.recorded.device number).Trace s es t) : t.2 = s.2 ++ es.map (.call number) := by
  induction es generalizing s with
  | nil =>
    obtain rfl : s = t := h
    simp
  | cons e es ih =>
    obtain ⟨u, he, h⟩ := h
    have hanswer : ((bus.device number).perform e.call s.1).1 = e.answer := congrArg Prod.fst he
    have hlog : u.2 = s.2 ++ [.call number ⟨e.call, ((bus.device number).perform e.call s.1).1⟩] := by
      rw [show u = ((bus.recorded.device number).perform e.call s).2 from (congrArg Prod.snd he).symm]
      rfl
    rw [ih h, hlog, hanswer, List.append_assoc]
    rfl

/-- The record tells the trace. -/
theorem eq_of_recorded {bus : Bus σ} {number : Nat} {s t : σ × List BusEvent} {es es' : List Event}
    (h : (bus.recorded.device number).Trace s es t)
    (h' : (bus.recorded.device number).Trace s es' t) : es = es' := by
  have hcalls : es.map (BusEvent.call number) = es'.map (.call number) :=
    List.append_cancel_left (h.busLog_eq.symm.trans h'.busLog_eq)
  exact (List.map_inj_right fun _ _ he => (BusEvent.call.inj he).2).1 hcalls

end Device.Trace

/-! ## Bulk transfers -/

/-- The bytes of a bulk OUT transfer. -/
def Event.sent? : Event → Option (List UInt8)
  | ⟨.bulkOut _ data _, _⟩ => some data
  | _ => none

/-- The bytes of a bulk IN transfer that came. -/
def Event.got? : Event → Option (List UInt8)
  | ⟨.bulkIn .., .ok data⟩ => some data
  | _ => none

end Benchtop.Usb
