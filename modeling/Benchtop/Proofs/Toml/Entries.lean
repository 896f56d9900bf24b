import Benchtop.Toml.Basic
import Mathlib.Data.List.Basic

/-!
# Entries and their keys

Whatever adds to a table by a path of keys only looks at the entry of the first key, and changes no
other one (`ActsAt`).

Main statements: inserting an entry, changing the table under a path, and beginning tables act at the
first key (`actsAt_insert`, `actsAt_alter`, `actsAt_openTable`, `actsAt_openTables`).
-/

namespace Benchtop.Toml.Entries

/-! ## One entry -/

/-- Gives a key a node, in the place of the one it has or at the end. -/
def put (key : String) (node : Node) (entries : Entries) : Entries :=
  match entries.lookup key with
  | none => entries ++ [(key, node)]
  | some _ => replace key node entries

theorem lookup_cons (k key : String) (node : Node) (entries : Entries) :
    List.lookup k ((key, node) :: entries) = if k = key then some node else entries.lookup k := by
  by_cases h : k = key
  · rw [List.lookup_cons, beq_iff_eq.2 h, if_pos h]
  · rw [List.lookup_cons, beq_eq_false_iff_ne.2 h, if_neg h]

theorem lookup_replace {key : String} {node : Node} {entries : Entries}
    (h : (entries.lookup key).isSome) (k : String) :
    (replace key node entries).lookup k = if k = key then some node else entries.lookup k := by
  induction entries with
  | nil => cases h
  | cons entry entries ih =>
    obtain ⟨key', node'⟩ := entry
    rw [lookup_cons] at h
    rw [replace]
    by_cases hkey : key' = key
    · rw [if_pos hkey, lookup_cons, lookup_cons, hkey]
      split_ifs <;> rfl
    · rw [if_neg (Ne.symm hkey)] at h
      rw [if_neg hkey, lookup_cons, lookup_cons, ih h]
      by_cases hk : k = key
      · rw [hk, if_neg (Ne.symm hkey), if_pos rfl, if_pos rfl]
      · rw [if_neg hk, if_neg hk]

theorem lookup_append_single {key : String} {node : Node} {entries : Entries}
    (h : entries.lookup key = none) (k : String) :
    (entries ++ [(key, node)]).lookup k = if k = key then some node else entries.lookup k := by
  induction entries with
  | nil => exact lookup_cons k key node []
  | cons entry entries ih =>
    obtain ⟨key', node'⟩ := entry
    rw [lookup_cons] at h
    by_cases hkey : key = key'
    · rw [if_pos hkey] at h
      cases h
    · rw [if_neg hkey] at h
      rw [List.cons_append, lookup_cons, lookup_cons, ih h]
      by_cases hk : k = key
      · rw [hk, if_neg hkey, if_pos rfl, if_pos rfl]
      · rw [if_neg hk, if_neg hk]

theorem lookup_put (key : String) (node : Node) (entries : Entries) (k : String) :
    (put key node entries).lookup k = if k = key then some node else entries.lookup k := by
  unfold put
  split
  · next h => exact lookup_append_single h k
  · next h => exact lookup_replace (by rw [h]; rfl) k

/-! ## Acting at a key -/

/-- What a change does is decided by the entry of one key, and only that entry is another one
afterwards. -/
def ActsAt (key : String) (change : Entries → Option Entries) : Prop :=
  ∀ entries entries', change entries = some entries' →
    ∃ node, entries' = put key node entries ∧
      ∀ others : Entries, others.lookup key = entries.lookup key →
        change others = some (put key node others)

section Acting

variable {key : String} {change : Entries → Option Entries} {entries entries' : Entries}

theorem ActsAt.lookup_of_ne (h : ActsAt key change) (hchange : change entries = some entries')
    {k : String} (hk : k ≠ key) : entries'.lookup k = entries.lookup k := by
  obtain ⟨node, rfl, -⟩ := h entries entries' hchange
  rw [lookup_put, if_neg hk]

/-- It does the same to any entries with this one. -/
theorem ActsAt.congr (h : ActsAt key change) (hchange : change entries = some entries')
    {others : Entries} (hlookup : others.lookup key = entries.lookup key) :
    ∃ others', change others = some others' ∧ others'.lookup key = entries'.lookup key := by
  obtain ⟨node, rfl, hothers⟩ := h entries entries' hchange
  refine ⟨_, hothers others hlookup, ?_⟩
  simp only [lookup_put, if_true]

end Acting

/-! ## Additions -/

theorem insert_of_none {key : String} {entries : Entries} (h : entries.lookup key = none)
    (node : Node) : insert true [key] node entries = some (put key node entries) := by
  simp [insert, addNew, put, h]

theorem actsAt_insert (mayEnd : Bool) (key : String) (rest : List String) (node : Node) :
    ActsAt key (insert mayEnd (key :: rest) node) := by
  intro entries entries' h
  cases rest with
  | nil =>
    cases mayEnd with
    | false => cases h
    | true =>
      cases hlookup : entries.lookup key with
      | some old => simp [insert, addNew, hlookup] at h
      | none =>
        rw [insert_of_none hlookup] at h
        exact ⟨node, (Option.some.inj h).symm, fun others hothers => insert_of_none hothers node⟩
  | cons next rest =>
    -- Only tables take the rest of the key, and not those with a header of their own.
    rcases hlookup : entries.lookup key with
      _ | _ | _ | _ | _ | _ | _ | _ | ⟨_ | _ | _, inner⟩ | ⟨earlier, latest⟩ <;>
      simp [insert, hlookup, Option.bind_eq_some_iff] at h
    all_goals
      obtain ⟨inner', hinner, rfl⟩ := h
      refine ⟨_, by simp only [put, hlookup]; rfl, fun others hothers => ?_⟩
      simp [insert, put, hothers, hinner]

theorem actsAt_alter (change : Entries → Option Entries) (key : String) (rest : List String) :
    ActsAt key (alter change (key :: rest)) := by
  intro entries entries' h
  rcases hlookup : entries.lookup key with
    _ | _ | _ | _ | _ | _ | _ | _ | ⟨origin, inner⟩ | ⟨earlier, latest⟩ <;>
    simp [alter, hlookup, Option.bind_eq_some_iff] at h
  all_goals
    obtain ⟨inner', hinner, rfl⟩ := h
    refine ⟨_, by simp only [put, hlookup]; rfl, fun others hothers => ?_⟩
    simp [alter, put, hothers, hinner]

theorem actsAt_openTable (key : String) : ActsAt key (openTable key) := by
  intro entries entries' h
  rcases hlookup : entries.lookup key with
    _ | _ | _ | _ | _ | _ | _ | _ | ⟨_ | _ | _, inner⟩ | ⟨earlier, latest⟩ <;>
    simp [openTable, hlookup] at h
  all_goals
    subst h
    refine ⟨_, by simp only [put, hlookup]; rfl, fun others hothers => ?_⟩
    simp [openTable, put, hothers]

theorem actsAt_openTables (key : String) : ActsAt key (openTables key) := by
  intro entries entries' h
  rcases hlookup : entries.lookup key with
    _ | _ | _ | _ | _ | _ | _ | _ | ⟨origin, inner⟩ | ⟨earlier, latest⟩ <;>
    simp [openTables, hlookup] at h
  all_goals
    subst h
    refine ⟨_, by simp only [put, hlookup]; rfl, fun others hothers => ?_⟩
    simp [openTables, put, hothers]

end Benchtop.Toml.Entries
