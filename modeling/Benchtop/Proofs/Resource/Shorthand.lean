import Benchtop.Proofs.Resource.Address

/-!
# The shorthand that is read as it was shown

A resource of ids is shown in the form of the shorthand: two ids of four hexadecimal digits, and perhaps
a serial number, with colons between them. The reader of the shorthand takes a text apart at every
colon, after it has trimmed it. So a serial number comes out again if it is not empty, has no colon in it
and no blank at its end (`Address.IsShort`).

Main statement: what is shown of the ids of such an address asks of a device what the address does
(`Selector.parse_describe`).
-/

namespace Benchtop

open Text Usb

/-! ## Colons -/

theorem splitAtColons_cons {c : Char} (h : c ≠ ':') (text : List Char) :
    splitAtColons (c :: text) = (splitAtColons text).modifyHead (c :: ·) := by
  rw [splitAtColons]
  exact h

/-- A part without colons ends at the next one. -/
theorem splitAtColons_append_colon {part : List Char} (h : ':' ∉ part) (rest : List Char) :
    splitAtColons (part ++ ':' :: rest) = part :: splitAtColons rest := by
  induction part with
  | nil => rfl
  | cons c part ih =>
    rw [List.mem_cons, not_or] at h
    rw [List.cons_append, splitAtColons_cons (Ne.symm h.1), ih h.2]
    rfl

theorem splitAtColons_eq_singleton {text : List Char} (h : ':' ∉ text) :
    splitAtColons text = [text] := by
  induction text with
  | nil => rfl
  | cons c text ih =>
    rw [List.mem_cons, not_or] at h
    rw [splitAtColons_cons (Ne.symm h.1), ih h.2]
    rfl

/-! ## Ids -/

theorem exists_of_mem_hexWordLower {id : UInt16} {c : Char} (h : c ∈ (hexWordLower id).toList) :
    ∃ d < 16, c = lowerDigit d := by
  rw [hexWordLower, String.toList_ofList] at h
  exact mem_hexDigits h

theorem colon_not_mem_hexWordLower (id : UInt16) : ':' ∉ (hexWordLower id).toList := by
  intro h
  obtain ⟨d, hd, he⟩ := exists_of_mem_hexWordLower h
  exact lowerDigit_ne_colon d hd he.symm

theorem isBlank_of_mem_hexWordLower {id : UInt16} {c : Char}
    (h : c ∈ (hexWordLower id).toList) : isBlank c = false := by
  obtain ⟨d, hd, rfl⟩ := exists_of_mem_hexWordLower h
  exact isBlank_lowerDigit d hd

/-- An id as the shorthand shows it, in four hexadecimal digits, is read as it is. -/
theorem readId_hexWordLower (id : UInt16) : readId 16 (hexWordLower id).toList = some id := by
  have hlt : id.toNat < 16 ^ 4 := id.toNat_lt
  have hread : readUnsigned 16 65535 (hexWordLower id).toList = some id.toNat := by
    rw [hexWordLower, String.toList_ofList]
    exact readUnsigned_hexDigits digitValue?_lowerDigit (by decide) hlt (Nat.le_pred_of_lt hlt)
  -- No digit is the letter of a prefix, so the digits are read as they stand.
  have hletter : ∀ c ∈ (hexWordLower id).toList, c ≠ 'x' ∧ c ≠ 'X' := by
    intro c hc
    obtain ⟨d, hd, rfl⟩ := exists_of_mem_hexWordLower hc
    exact lowerDigit_ne_letter d hd
  rw [readId, trim_eq_self
    (fun c hc => isBlank_of_mem_hexWordLower (List.mem_of_mem_head? hc))
    fun c hc => isBlank_of_mem_hexWordLower (List.mem_of_mem_getLast? hc)]
  split
  · next digits he => exact absurd rfl (hletter 'x' (by simp [he])).1
  · next digits he => exact absurd rfl (hletter 'X' (by simp [he])).2
  · simp [hread]

/-! ## Addresses -/

namespace Address

/-- The serial number, if there is one, can stand at the end of the shorthand: it is not empty, it has
no colon in it and no blank at its end. -/
def IsShort (a : Address) : Prop :=
  ∀ serial ∈ a.serial,
    serial ≠ "" ∧ ':' ∉ serial.toList ∧ ∀ c ∈ serial.toList.getLast?, isBlank c = false

instance (a : Address) : Decidable a.IsShort :=
  inferInstanceAs (Decidable (∀ serial ∈ a.serial, _))

/-- A serial number that the shorthand can hold, an address can. -/
theorem IsShort.readable {a : Address} (h : a.IsShort) : a.Readable := by
  intro serial hserial
  obtain ⟨hne, hcolon, -⟩ := h serial hserial
  exact ⟨hne, fun hpair => hcolon (hpair.subset List.mem_cons_self),
    fun hlast => hcolon (List.mem_of_getLast? hlast)⟩

end Address

/-! ## Selectors -/

/-- What stands after the product id in the shorthand. -/
def shorthandTail : Option String → List Char
  | some serial => ':' :: serial.toList
  | none => []

theorem Resource.toList_describe (a : Address) :
    (ofAddress a).describe.toList =
      (hexWordLower a.vendor).toList ++ ':' :: ((hexWordLower a.product).toList ++
        shorthandTail a.serial) := by
  cases h : a.serial <;> simp [ofAddress, describe, shorthandTail, h]

theorem hexWordLower_ne_nil (id : UInt16) : (hexWordLower id).toList ≠ [] := by
  intro h
  have hlength := congrArg List.length h
  rw [hexWordLower, String.toList_ofList, length_hexDigits] at hlength
  cases hlength

theorem Resource.trim_describe {a : Address} (h : a.IsShort) :
    trim (ofAddress a).describe.toList = (ofAddress a).describe.toList := by
  rw [toList_describe]
  refine trim_eq_self (fun c hc => ?_) fun c hc => ?_
  · rw [List.head?_append_of_ne_nil _ (hexWordLower_ne_nil _)] at hc
    exact isBlank_of_mem_hexWordLower (List.mem_of_mem_head? hc)
  · rw [List.getLast?_append_of_ne_nil _ (List.cons_ne_nil _ _), List.getLast?_cons_of_ne_nil
      (List.append_ne_nil_of_left_ne_nil (hexWordLower_ne_nil _) _)] at hc
    cases hserial : a.serial with
    | none =>
      rw [hserial, shorthandTail, List.append_nil] at hc
      exact isBlank_of_mem_hexWordLower (List.mem_of_mem_getLast? hc)
    | some serial =>
      obtain ⟨hne, -, hlast⟩ := h serial hserial
      have hne' : serial.toList ≠ [] := fun he => hne (String.toList_eq_nil_iff.1 he)
      rw [hserial, shorthandTail, List.getLast?_append_of_ne_nil _ (by simp),
        List.getLast?_cons_of_ne_nil hne'] at hc
      exact hlast c hc

namespace Selector

theorem hasPair_cons {c : Char} {text : List Char} (h : ¬ [':', ':'] <+: c :: text) :
    hasPair (c :: text) = hasPair text := by
  rw [hasPair]
  rintro rest rfl rfl
  exact h (List.prefix_append [':', ':'] rest)

/-- A colon that stands alone makes no pair. -/
theorem hasPair_append_colon {part : List Char} (hpart : ':' ∉ part) {rest : List Char}
    (hrest : rest.head? ≠ some ':') : hasPair (part ++ ':' :: rest) = hasPair rest := by
  induction part with
  | nil =>
    rw [List.nil_append, hasPair_cons]
    exact fun h => hrest (pair_prefix_cons.1 h).2
  | cons c part ih =>
    rw [List.mem_cons, not_or] at hpart
    rw [List.cons_append, hasPair_cons, ih hpart.2]
    exact fun h => hpart.1 (pair_prefix_cons.1 h).1.symm

theorem hasPair_of_not_mem {text : List Char} (h : ':' ∉ text) : hasPair text = false := by
  rw [← Bool.not_eq_true, hasPair_iff]
  exact fun hpair => h (hpair.subset List.mem_cons_self)

/-- The colons of the shorthand stand alone. -/
theorem hasPair_describe {a : Address} (h : a.IsShort) :
    hasPair (Resource.ofAddress a).describe.toList = false := by
  have hid (id : UInt16) (rest : List Char) :
      ((hexWordLower id).toList ++ rest).head? ≠ some ':' := by
    rw [List.head?_append_of_ne_nil _ (hexWordLower_ne_nil _)]
    exact fun hhead => colon_not_mem_hexWordLower id (List.mem_of_mem_head? hhead)
  rw [Resource.toList_describe, hasPair_append_colon (colon_not_mem_hexWordLower _) (hid _ _)]
  cases hserial : a.serial with
  | none =>
    rw [shorthandTail, List.append_nil]
    exact hasPair_of_not_mem (colon_not_mem_hexWordLower _)
  | some serial =>
    obtain ⟨-, hcolon, -⟩ := h serial hserial
    rw [shorthandTail, hasPair_append_colon (colon_not_mem_hexWordLower _)
      fun hhead => hcolon (List.mem_of_mem_head? hhead)]
    exact hasPair_of_not_mem hcolon

/-- The parts of the shorthand come out again. -/
theorem parseShorthand?_describe {a : Address} (h : a.IsShort) :
    parseShorthand? (Resource.ofAddress a).describe.toList = some (ofAddress a) := by
  rw [parseShorthand?, Resource.trim_describe h, Resource.toList_describe,
    splitAtColons_append_colon (colon_not_mem_hexWordLower _)]
  cases hserial : a.serial with
  | none =>
    rw [shorthandTail, List.append_nil, splitAtColons_eq_singleton (colon_not_mem_hexWordLower _)]
    simp [readId_hexWordLower, ofAddress, hserial]
  | some serial =>
    obtain ⟨hne, hcolon, -⟩ := h serial hserial
    rw [shorthandTail, splitAtColons_append_colon (colon_not_mem_hexWordLower _),
      splitAtColons_eq_singleton hcolon]
    simp [readId_hexWordLower, ofAddress, hserial, hne]

/-- What is shown of the ids of an address asks of a device what the address does. -/
theorem parse_describe {a : Address} (h : a.IsShort) :
    Selector.parse (Resource.ofAddress a).describe = .ok (ofAddress a) := by
  rw [Selector.parse, hasPair_describe h, if_neg Bool.false_ne_true, parseShorthand?_describe h]

end Selector

end Benchtop
