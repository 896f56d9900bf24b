import Mathlib.Logic.Relation

/-!
# Steps of actions

An action, failing or not, takes a state to a state. `bind_apply` and its companions open one step
of an action. `Respects r` says that the state after the action is one that `r` relates to the state
before it; for a reflexive and transitive `r` it passes through the steps of an action, so that what
a whole action does to the state follows from what its calls do.

Two measures of the state use this. `NoGain` says that the action never adds to the measure,
`Spends` that it takes from it whenever it succeeds. `NeverFails` excludes one failure.

`Commutes g` says that the action does not see the change `g` of the state: it gives the same, and the
change is still there in the end.
-/

namespace Benchtop

variable {ε σ α β : Type}

/-! ## One step -/

theorem bind_apply (x : ExceptT ε (StateM σ) α) (f : α → ExceptT ε (StateM σ) β) (s : σ) :
    (x >>= f) s =
      match x s with
      | (.error e, s) => (.error e, s)
      | (.ok a, s) => f a s := by
  change (ExceptT.bindCont f (x s).1 : StateM σ _) (x s).2 = _
  rcases x s with ⟨_ | _, _⟩ <;> rfl

theorem bind_of_ok {x : ExceptT ε (StateM σ) α} {f : α → ExceptT ε (StateM σ) β} {s s' : σ} {a : α}
    (h : x s = (.ok a, s')) : (x >>= f) s = f a s' := by
  rw [bind_apply, h]

theorem bind_of_error {x : ExceptT ε (StateM σ) α} {f : α → ExceptT ε (StateM σ) β} {s s' : σ} {e : ε}
    (h : x s = (.error e, s')) : (x >>= f) s = (.error e, s') := by
  rw [bind_apply, h]

/-- What is given afterwards does not matter to the state. -/
theorem bind_pure_apply_snd (x : ExceptT ε (StateM σ) α) (b : β) (s : σ) :
    ((x >>= fun _ => pure b) s).2 = (x s).2 := by
  rw [bind_apply]
  rcases x s with ⟨_ | _, _⟩ <;> rfl

/-- What is given may be changed afterwards. -/
theorem bind_pure_apply (x : ExceptT ε (StateM σ) α) (f : α → β) (s : σ) :
    (x >>= fun a => pure (f a)) s = ((x s).1.map f, (x s).2) := by
  rw [bind_apply]
  rcases x s with ⟨_ | _, _⟩ <;> rfl

/-- A chain of steps that succeeds has succeeded in every step. -/
theorem exists_of_bind_eq_ok {x : ExceptT ε (StateM σ) α} {f : α → ExceptT ε (StateM σ) β}
    {s t : σ} {b : β} (h : (x >>= f) s = (.ok b, t)) :
    ∃ a u, x s = (.ok a, u) ∧ f a u = (.ok b, t) := by
  rw [bind_apply] at h
  split at h
  · cases h
  · next a u hx => exact ⟨a, u, hx, h⟩

theorem tryCatch_apply (x : ExceptT ε (StateM σ) α) (f : ε → ExceptT ε (StateM σ) α) (s : σ) :
    tryCatch x f s =
      match x s with
      | (.error e, s) => f e s
      | (.ok a, s) => (.ok a, s) := by
  simp only [tryCatch, tryCatchThe, MonadExceptOf.tryCatch, ExceptT.tryCatch, ExceptT.mk, bind,
    StateT.bind]
  rcases x s with ⟨_ | _, _⟩ <;> rfl

theorem get_bind_apply (f : σ → ExceptT ε (StateM σ) α) (s : σ) :
    ((get : ExceptT ε (StateM σ) σ) >>= f) s = f s s := rfl

theorem lift_bind_apply (x : StateM σ α) (f : α → ExceptT ε (StateM σ) β) (s : σ) :
    ((liftM x : ExceptT ε (StateM σ) α) >>= f) s = f (x s).1 (x s).2 := rfl

theorem mapError_ok {ε' : Type} (f : ε → ε') (a : α) :
    (Except.ok a : Except ε α).mapError f = .ok a := rfl

theorem ofExcept_apply (answer : Except ε α) (s : σ) :
    (MonadExcept.ofExcept answer : ExceptT ε (StateM σ) α) s = (answer, s) := by
  cases answer <;> rfl

theorem adapt_apply {ε' : Type} (x : ExceptT ε (StateM σ) α) (f : ε → ε') (s : σ) :
    x.adapt f s = ((x s).1.mapError f, (x s).2) := rfl

/-- One step of an action that does not fail. -/
theorem seq_apply (x : StateM σ α) (f : α → StateM σ β) (s : σ) :
    (x >>= f) s = f (x s).1 (x s).2 := rfl

theorem get_seq_apply (f : σ → StateM σ α) (s : σ) : ((get : StateM σ σ) >>= f) s = f s s := rfl

/-! ## Relations that an action respects -/

/-- The action leads from every state to one that `r` relates to it. -/
def Respects (r : σ → σ → Prop) (action : σ → β × σ) : Prop := ∀ s, r s (action s).2

theorem Respects.mono {r r' : σ → σ → Prop} {action : σ → β × σ} (h : Respects r action)
    (hr : ∀ s s', r s s' → r' s s') : Respects r' action :=
  fun s => hr _ _ (h s)

section Respects

variable {r : σ → σ → Prop} [Std.Refl r]

theorem respects_pure (a : α) : Respects r (pure a : ExceptT ε (StateM σ) α) := refl_of r

theorem respects_throw (e : ε) : Respects r (throw e : ExceptT ε (StateM σ) α) := refl_of r

theorem respects_ofExcept (answer : Except ε α) :
    Respects r (MonadExcept.ofExcept answer : ExceptT ε (StateM σ) α) := by
  cases answer with
  | error e => exact respects_throw e
  | ok a => exact respects_pure a

/-- A failure leaves out the steps after it. -/
theorem respects_throw_bind (e : ε) (f : α → ExceptT ε (StateM σ) β) :
    Respects r (throw e >>= f) := refl_of r

theorem respects_get : Respects r (get : ExceptT ε (StateM σ) σ) := refl_of r

theorem respects_skip (a : α) : Respects r (pure a : StateM σ α) := refl_of r

end Respects

theorem respects_modify {r : σ → σ → Prop} {f : σ → σ} (h : ∀ s, r s (f s)) :
    Respects r (modify f : ExceptT ε (StateM σ) PUnit) := h

theorem respects_lift {r : σ → σ → Prop} {x : StateM σ α} (h : Respects r x) :
    Respects r (liftM x : ExceptT ε (StateM σ) α) := h

section Respects

variable {r : σ → σ → Prop} [IsTrans σ r]

/-- Steps whose first one may have been related to a state before it. -/
theorem Respects.bind_at {x : ExceptT ε (StateM σ) α} {f : α → ExceptT ε (StateM σ) β} {s s' : σ}
    (hx : r s (x s').2) (hf : ∀ a, Respects r (f a)) : r s ((x >>= f) s').2 := by
  rw [bind_apply]
  match hr : x s' with
  | (.error e, t) => rwa [hr] at hx
  | (.ok a, t) =>
    rw [hr] at hx
    exact trans_of r hx (hf a t)

theorem Respects.bind {x : ExceptT ε (StateM σ) α} {f : α → ExceptT ε (StateM σ) β}
    (hx : Respects r x) (hf : ∀ a, Respects r (f a)) : Respects r (x >>= f) :=
  fun s => bind_at (hx s) hf

/-- Steps of an action that does not fail. -/
theorem Respects.seq {x : StateM σ α} {f : α → StateM σ β} (hx : Respects r x)
    (hf : ∀ a, Respects r (f a)) : Respects r (x >>= f) :=
  fun s => trans_of r (hx s) (hf _ _)

theorem Respects.tryCatch {x : ExceptT ε (StateM σ) α} {f : ε → ExceptT ε (StateM σ) α}
    (hx : Respects r x) (hf : ∀ e, Respects r (f e)) : Respects r (tryCatch x f) := by
  intro s
  have h := hx s
  rw [tryCatch_apply]
  match hr : x s with
  | (.error e, s') =>
    rw [hr] at h
    exact trans_of r h (hf e s')
  | (.ok a, s') => rwa [hr] at h

end Respects

theorem Respects.mapM {r : σ → σ → Prop} [Std.Refl r] [IsTrans σ r]
    {f : α → ExceptT ε (StateM σ) β} (hf : ∀ a, Respects r (f a)) (as : List α) :
    Respects r (as.mapM f) := by
  induction as with
  | nil =>
    rw [List.mapM_nil]
    exact respects_pure []
  | cons a as ih =>
    rw [List.mapM_cons]
    exact (hf a).bind fun _ => ih.bind fun _ => respects_pure _

/-- What holds of the first state holds of the second. -/
def Preserves (p : σ → Prop) (s s' : σ) : Prop := p s → p s'

instance (p : σ → Prop) : Std.Refl (Preserves p) where
  refl _ := id

instance (p : σ → Prop) : IsTrans σ (Preserves p) where
  trans _ _ _ h h' := h' ∘ h

/-! ## Conditions before and after -/

/-- From a state that meets `p`, the action gives a result and a state that meet `q`, or a failure and
a state that meet `e`. -/
def Ensures (p : σ → Prop) (action : ExceptT ε (StateM σ) α) (q : α → σ → Prop)
    (e : ε → σ → Prop) : Prop :=
  ∀ s, p s →
    match action s with
    | (.ok a, s') => q a s'
    | (.error failure, s') => e failure s'

section Ensures

variable {p : σ → Prop} {q : α → σ → Prop} {q' : β → σ → Prop} {e : ε → σ → Prop}

theorem Ensures.bind {x : ExceptT ε (StateM σ) α} {f : α → ExceptT ε (StateM σ) β}
    (hx : Ensures p x q e) (hf : ∀ a, Ensures (q a) (f a) q' e) : Ensures p (x >>= f) q' e := by
  intro s hs
  have h := hx s hs
  rw [bind_apply]
  match hr : x s with
  | (.error _, s') => rwa [hr] at h
  | (.ok a, s') =>
    rw [hr] at h
    exact hf a s' h

/-- A failure that is caught. -/
theorem Ensures.tryCatch {x : ExceptT ε (StateM σ) α} {f : ε → ExceptT ε (StateM σ) α}
    {e' : ε → σ → Prop} (hx : Ensures p x q e) (hf : ∀ failure, Ensures (e failure) (f failure) q e') :
    Ensures p (tryCatch x f) q e' := by
  intro s hs
  have h := hx s hs
  rw [tryCatch_apply]
  match hr : x s with
  | (.error failure, s') =>
    rw [hr] at h
    exact hf failure s' h
  | (.ok a, s') => rwa [hr] at h

theorem Ensures.mono {x : ExceptT ε (StateM σ) α} {r : α → σ → Prop} {e' : ε → σ → Prop}
    (h : Ensures p x q e) (hq : ∀ a s, q a s → r a s) (he : ∀ failure s, e failure s → e' failure s) :
    Ensures p x r e' := by
  intro s hs
  have hx := h s hs
  split at hx
  · exact hq _ _ hx
  · exact he _ _ hx

theorem ensures_pure {a : α} (h : ∀ s, p s → q a s) :
    Ensures p (pure a : ExceptT ε (StateM σ) α) q e := h

theorem ensures_throw {failure : ε} (h : ∀ s, p s → e failure s) :
    Ensures p (throw failure : ExceptT ε (StateM σ) α) q e := h

theorem ensures_throw_bind {failure : ε} {f : α → ExceptT ε (StateM σ) β}
    (h : ∀ s, p s → e failure s) : Ensures p (throw failure >>= f) q' e := h

theorem ensures_get : Ensures p (get : ExceptT ε (StateM σ) σ) (fun _ => p) e := fun _ hs => hs

/-- What is read is the state. -/
theorem ensures_get_self :
    Ensures p (get : ExceptT ε (StateM σ) σ) (fun a s => a = s ∧ p s) e := fun _ hs => ⟨rfl, hs⟩

theorem ensures_modify {f : σ → σ} {r : σ → Prop} (h : ∀ s, p s → r (f s)) :
    Ensures p (modify f : ExceptT ε (StateM σ) PUnit) (fun _ => r) e := h

/-- An action that does not fail. -/
theorem ensures_lift {x : StateM σ α} (h : ∀ s, p s → q (x s).1 (x s).2) :
    Ensures p (liftM x : ExceptT ε (StateM σ) α) q e := h

theorem ensures_ofExcept (answer : Except ε α) :
    Ensures p (MonadExcept.ofExcept answer : ExceptT ε (StateM σ) α) (fun _ => p) fun _ => p := by
  intro s hs
  cases answer <;> exact hs

theorem ensures_ofExcept_eq (answer : Except ε α) :
    Ensures p (MonadExcept.ofExcept answer : ExceptT ε (StateM σ) α)
      (fun a s => answer = .ok a ∧ p s) fun _ => p := by
  intro s hs
  cases answer with
  | error _ => exact hs
  | ok a => exact ⟨rfl, hs⟩

/-- One action for each element of a list, up to the first that fails. -/
theorem Ensures.mapM {f : α → ExceptT ε (StateM σ) β} (hf : ∀ a, Ensures p (f a) (fun _ => p) e)
    (as : List α) : Ensures p (as.mapM f) (fun _ => p) e := by
  induction as with
  | nil =>
    rw [List.mapM_nil]
    exact ensures_pure fun _ => id
  | cons a as ih =>
    rw [List.mapM_cons]
    exact (hf a).bind fun _ => ih.bind fun _ => ensures_pure fun _ => id

/-- What does not depend on the state may be assumed. -/
theorem ensures_of_and {r : Prop} {x : ExceptT ε (StateM σ) α} (h : r → Ensures p x q e) :
    Ensures (fun s => r ∧ p s) x q e :=
  fun s hs => h hs.1 s hs.2

/-- What a relation carries over is there after an action that respects it, succeed or fail. -/
theorem Respects.ensures {r : σ → σ → Prop} {x : ExceptT ε (StateM σ) α} (h : Respects r x)
    (hp : ∀ s s', r s s' → p s → p s') : Ensures p x (fun _ => p) fun _ => p := by
  intro s hs
  have hr := hp _ _ (h s) hs
  split <;> next hx => rwa [hx] at hr

end Ensures

/-! ## Measures -/

variable {measure : σ → Nat}

/-- The measure of the second state is at most that of the first. -/
def AtMost (measure : σ → Nat) (s s' : σ) : Prop := measure s' ≤ measure s

instance : Std.Refl (AtMost measure) where
  refl _ := Nat.le_refl _

instance : IsTrans σ (AtMost measure) where
  trans _ _ _ h h' := Nat.le_trans h' h

/-- The action never adds to the measure. -/
abbrev NoGain (measure : σ → Nat) (action : σ → β × σ) : Prop :=
  Respects (AtMost measure) action

/-- Whenever the action succeeds, it takes from the measure. -/
def Spends (measure : σ → Nat) (action : ExceptT ε (StateM σ) α) : Prop :=
  ∀ s a, (action s).1 = .ok a → measure (action s).2 < measure s

/-- The action never ends in the failure `e`. -/
def NeverFails (e : ε) (action : ExceptT ε (StateM σ) α) : Prop :=
  ∀ s, (action s).1 ≠ .error e

/-- An action spends if its last step does. -/
theorem Spends.bind {x : ExceptT ε (StateM σ) α} {f : α → ExceptT ε (StateM σ) β}
    (hx : NoGain measure x) (hf : ∀ a, Spends measure (f a)) : Spends measure (x >>= f) := by
  intro s b hb
  have h : measure (x s).2 ≤ measure s := hx s
  rw [bind_apply] at hb ⊢
  match hr : x s with
  | (.error e, s') => simp [hr] at hb
  | (.ok a, s') =>
    rw [hr] at h hb
    exact Nat.lt_of_lt_of_le (hf a s' b hb) h

/-- An action spends if its first step does. -/
theorem Spends.bind_noGain {x : ExceptT ε (StateM σ) α} {f : α → ExceptT ε (StateM σ) β}
    (hx : Spends measure x) (hf : ∀ a, NoGain measure (f a)) : Spends measure (x >>= f) := by
  intro s b hb
  rw [bind_apply] at hb ⊢
  match hr : x s with
  | (.error e, s') => simp [hr] at hb
  | (.ok a, s') =>
    have h := hx s a (by rw [hr])
    rw [hr] at h
    exact Nat.lt_of_le_of_lt (hf a s') h

/-! ## Changes of the state that an action does not see -/

/-- On the changed state the action gives what it gives otherwise, and ends in the state in which it ends
otherwise, changed. -/
def Commutes (g : σ → σ) (action : σ → β × σ) : Prop :=
  ∀ s, action (g s) = ((action s).1, g (action s).2)

section Commutes

variable {g : σ → σ}

theorem commutes_pure (a : α) : Commutes g (pure a : ExceptT ε (StateM σ) α) := fun _ => rfl

theorem commutes_throw (e : ε) : Commutes g (throw e : ExceptT ε (StateM σ) α) := fun _ => rfl

theorem commutes_skip (a : α) : Commutes g (pure a : StateM σ α) := fun _ => rfl

theorem commutes_ofExcept (answer : Except ε α) :
    Commutes g (MonadExcept.ofExcept answer : ExceptT ε (StateM σ) α) := by
  cases answer with
  | error e => exact commutes_throw e
  | ok a => exact commutes_pure a

theorem commutes_lift {x : StateM σ α} (h : Commutes g x) :
    Commutes g (liftM x : ExceptT ε (StateM σ) α) :=
  fun s => congrArg (fun made : α × σ => (Except.ok made.1, made.2)) (h s)

theorem Commutes.bind {x : ExceptT ε (StateM σ) α} {f : α → ExceptT ε (StateM σ) β}
    (hx : Commutes g x) (hf : ∀ a, Commutes g (f a)) : Commutes g (x >>= f) := by
  intro s
  rw [bind_apply, bind_apply, hx s]
  rcases x s with ⟨e | a, t⟩
  · rfl
  · exact hf a t

/-- Steps of an action that does not fail. -/
theorem Commutes.seq {x : StateM σ α} {f : α → StateM σ β} (hx : Commutes g x)
    (hf : ∀ a, Commutes g (f a)) : Commutes g (x >>= f) := by
  intro s
  rw [seq_apply, seq_apply, hx s]
  exact hf _ _

/-- What is read of the state is not what is changed. -/
theorem commutes_get_bind {f : σ → ExceptT ε (StateM σ) α} (hg : ∀ s, f (g s) = f s)
    (hf : ∀ s, Commutes g (f s)) : Commutes g (get >>= f) := by
  intro s
  rw [get_bind_apply, get_bind_apply, hg]
  exact hf s s

theorem commutes_get_seq {f : σ → StateM σ α} (hg : ∀ s, f (g s) = f s)
    (hf : ∀ s, Commutes g (f s)) : Commutes g ((get : StateM σ σ) >>= f) := by
  intro s
  rw [get_seq_apply, get_seq_apply, hg]
  exact hf s s

end Commutes

end Benchtop
