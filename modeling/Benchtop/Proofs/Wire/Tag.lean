import Benchtop.Wire.Envelope
import Benchtop.Wire.Tag
import Mathlib.Logic.Function.Iterate

/-!
# Tags in order

A bulk OUT transfer bears its tag in its second byte and the complement in its third (`Bears`).
Transfers are `Numbered` if they bear 1, 2, …, 255, 1, … in their order, which are the tags that a
counter gives out one after the other (`TagCounter.current_iterate_next`). Of any 255 of them in a row
no two bear the same tag (`Numbered.not_bears`).

Requests for the status byte have tags of their own, 2, 3, …, 127, 2, … (`statusTagAt`). No two of 126
in a row are the same, nor do the notifications of two such requests begin with the same byte, or with
that of a service request (`or_statusTagAt_ne`, `or_statusTagAt_ne_serviceRequest`).
-/

namespace Benchtop.Wire

/-- The tags after one another, in numbers. -/
theorem TagCounter.toNat_iterate_next (c : TagCounter) (i : Nat) :
    (TagCounter.next^[i + 1] c).current.toNat = (c.current.toNat + i) % 255 + 1 := by
  have hnext : ∀ c : TagCounter, c.next.current.toNat = c.current.toNat % 255 + 1 := by
    intro c
    have : c.current.toNat % 255 < 255 := Nat.mod_lt _ (by decide)
    simp only [TagCounter.next, UInt8.toNat_add, UInt8.toNat_mod, UInt8.reduceToNat]
    omega
  induction i with
  | zero => simpa using hnext c
  | succ i ih =>
    rw [Function.iterate_succ_apply', hnext, ih]
    omega

/-- The tag of the transfer that comes after `i` others. -/
def tagAt (i : Nat) : UInt8 := UInt8.ofNat (i % 255 + 1)

theorem toNat_tagAt (i : Nat) : (tagAt i).toNat = i % 255 + 1 := by
  have : i % 255 < 255 := Nat.mod_lt _ (by decide)
  rw [tagAt, UInt8.toNat_ofNat']
  omega

theorem tagAt_ne {i j : Nat} (hlt : i < j) (hnear : j < i + 255) : tagAt i ≠ tagAt j := by
  intro h
  have hmod := congrArg UInt8.toNat h
  rw [toNat_tagAt, toNat_tagAt] at hmod
  omega

theorem TagCounter.current_iterate_next (i : Nat) :
    (TagCounter.next^[i + 1] {}).current = tagAt i := by
  apply UInt8.toNat_inj.1
  rw [toNat_iterate_next, toNat_tagAt]
  simp

/-- The tag of the status byte request that comes after `i` others. -/
def statusTagAt (i : Nat) : UInt8 := UInt8.ofNat (i % 126 + 2)

theorem toNat_statusTagAt (i : Nat) : (statusTagAt i).toNat = i % 126 + 2 := by
  have : i % 126 < 126 := Nat.mod_lt _ (by decide)
  rw [statusTagAt, UInt8.toNat_ofNat']
  omega

theorem statusTagAt_ne {i j : Nat} (hlt : i < j) (hnear : j < i + 126) :
    statusTagAt i ≠ statusTagAt j := by
  intro h
  have hmod := congrArg UInt8.toNat h
  rw [toNat_statusTagAt, toNat_statusTagAt] at hmod
  omega

/-- After the tag 127 comes the tag 2, and no other is left out. -/
theorem StatusTagCounter.current_next (i : Nat) :
    (StatusTagCounter.next ⟨statusTagAt i⟩).current = statusTagAt (i + 1) := by
  have hcycle : ∀ n < 126, (StatusTagCounter.next ⟨.ofNat (n + 2)⟩).current =
      UInt8.ofNat ((n + 1) % 126 + 2) := by decide
  rw [statusTagAt, hcycle _ (Nat.mod_lt _ (by decide)), statusTagAt, Nat.mod_add_mod]

theorem StatusTagCounter.current_iterate_next (i : Nat) :
    (StatusTagCounter.next^[i + 1] {}).current = statusTagAt i := by
  induction i with
  | zero => rfl
  | succ i ih => rw [Function.iterate_succ_apply', ← current_next, ← ih]

/-- The byte that begins the notification of a status byte request. -/
theorem toNat_or_statusTagAt (i : Nat) : (0x80 ||| statusTagAt i).toNat = 128 + (i % 126 + 2) := by
  have hlt : i % 126 + 2 < 2 ^ 7 := by
    have : i % 126 < 126 := Nat.mod_lt _ (by decide)
    omega
  rw [UInt8.toNat_or, toNat_statusTagAt]
  exact (Nat.two_pow_add_eq_or_of_lt hlt 1).symm

/-- No notification of a status byte request is that of a service request. -/
theorem or_statusTagAt_ne_serviceRequest (i : Nat) : 0x80 ||| statusTagAt i ≠ 0x81 := by
  intro h
  have hnat := congrArg UInt8.toNat h
  rw [toNat_or_statusTagAt] at hnat
  have : (0x81 : UInt8).toNat = 129 := rfl
  omega

/-- The notifications of requests near each other begin differently. -/
theorem or_statusTagAt_ne {i j : Nat} (hlt : i < j) (hnear : j < i + 126) :
    0x80 ||| statusTagAt i ≠ 0x80 ||| statusTagAt j := by
  intro h
  have hnat := congrArg UInt8.toNat h
  rw [toNat_or_statusTagAt, toNat_or_statusTagAt] at hnat
  omega

/-- The bytes of a transfer with this tag: it comes second, and its complement third. -/
def Bears (tag : UInt8) (transfer : List UInt8) : Prop :=
  ∃ id rest, transfer = id :: tag :: ~~~tag :: rest

theorem Bears.unique {tag tag' : UInt8} {transfer : List UInt8} (h : Bears tag transfer)
    (h' : Bears tag' transfer) : tag = tag' := by
  obtain ⟨id, rest, rfl⟩ := h
  obtain ⟨id', rest', he⟩ := h'
  simp only [List.cons.injEq] at he
  exact he.2.1

theorem Envelope.bears_bytes (e : Envelope) : Bears e.tag e.bytes := ⟨_, _, rfl⟩

theorem Envelope.bears_frame (e : Envelope) (payload : List UInt8) :
    Bears e.tag (e.frame payload) := ⟨_, _, rfl⟩

/-- What is read as an envelope bears the tag that was read. -/
theorem Envelope.bears_of_parse {data : List UInt8} {kind : MessageKind} {e : Envelope}
    (h : parse data kind = .ok e) : Bears e.tag data := by
  unfold parse at h
  split at h
  · next id tag complement _ _ _ _ _ _ _ _ _ _ =>
    split at h
    · cases h
    · split at h
      · cases h
      · next hcomplement =>
        cases h
        rw [Decidable.not_not.1 hcomplement]
        exact ⟨id, _, rfl⟩
  · cases h

/-- Transfers that bear the tags 1, 2, …, 255, 1, … in this order. -/
def Numbered (transfers : List (List UInt8)) : Prop :=
  ∀ i (h : i < transfers.length), Bears (tagAt i) transfers[i]

theorem numbered_nil : Numbered [] := nofun

theorem Numbered.concat {transfers : List (List UInt8)} (h : Numbered transfers)
    {transfer : List UInt8} (ht : Bears (tagAt transfers.length) transfer) :
    Numbered (transfers ++ [transfer]) := by
  intro i hi
  rw [List.length_append, List.length_singleton] at hi
  rcases Nat.lt_succ_iff_lt_or_eq.1 hi with hlt | rfl
  · rw [List.getElem_append_left hlt]
    exact h i hlt
  · simpa using ht

/-- Of 255 transfers in a row no two bear the same tag. -/
theorem Numbered.not_bears {transfers : List (List UInt8)} (h : Numbered transfers) {i j : Nat}
    (hlt : i < j) (hnear : j < i + 255) {transfer transfer' : List UInt8}
    (hi : transfers[i]? = some transfer) (hj : transfers[j]? = some transfer') {tag : UInt8}
    (ht : Bears tag transfer) : ¬ Bears tag transfer' := by
  intro ht'
  obtain ⟨hlength, rfl⟩ := List.getElem?_eq_some_iff.1 hi
  obtain ⟨hlength', rfl⟩ := List.getElem?_eq_some_iff.1 hj
  have htag := (h i hlength).unique ht
  have htag' := (h j hlength').unique ht'
  exact tagAt_ne hlt hnear (htag.trans htag'.symm)

end Benchtop.Wire
