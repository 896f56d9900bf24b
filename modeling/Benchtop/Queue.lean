/-!
# Queues under keys

A list of values, each filed under a key. Values under one key are taken in the order in which they
were filed; those under other keys stay as they are.
-/

namespace Benchtop

/-- The first value filed under a key, and the list without it. -/
def takeFirst {κ α : Type} [DecidableEq κ] (key : κ) : List (κ × α) → Option (α × List (κ × α))
  | [] => none
  | (k, a) :: rest =>
    if k = key then some (a, rest)
    else (takeFirst key rest).map fun (found, rest) => (found, (k, a) :: rest)

/-- Taking a value makes the list one shorter. -/
theorem length_of_takeFirst {κ α : Type} [DecidableEq κ] {key : κ} {queue rest : List (κ × α)}
    {a : α} (h : takeFirst key queue = some (a, rest)) : queue.length = rest.length + 1 := by
  induction queue generalizing rest with
  | nil => simp [takeFirst] at h
  | cons entry queue ih =>
    obtain ⟨k, b⟩ := entry
    by_cases hk : k = key
    · simp only [takeFirst, if_pos hk, Option.some.injEq, Prod.mk.injEq] at h
      simp [h.2]
    · simp only [takeFirst, if_neg hk, Option.map_eq_some_iff] at h
      obtain ⟨⟨found, rest'⟩, h', he⟩ := h
      simp only [Prod.mk.injEq] at he
      rw [← he.2, List.length_cons, List.length_cons, ih (he.1 ▸ h')]

end Benchtop
