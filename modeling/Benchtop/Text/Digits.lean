/-!
# Numbers in text

Hexadecimal digits of a fixed count, as identifiers and status codes are printed, and the
reader of unsigned numbers that addresses, `*STB?` answers and command-line values share.
Everything works on `List Char`; the printed forms are also given as strings.

`hexDigits digit w n` always has `w` digits (`length_hexDigits`), so a value below `16 ^ w`
has exactly one printed form.
-/

namespace Benchtop.Text

/-! ## Printing -/

/-- The digit of value `d` with letters in upper case. -/
def upperDigit (d : Nat) : Char :=
  if d < 10 then Char.ofNat (48 + d) else Char.ofNat (55 + d)

/-- The digit of value `d` with letters in lower case. -/
def lowerDigit (d : Nat) : Char :=
  if d < 10 then Char.ofNat (48 + d) else Char.ofNat (87 + d)

/-- The last `width` digits of `n` in base 16. -/
def hexDigits (digit : Nat → Char) : (width : Nat) → (n : Nat) → List Char
  | 0, _ => []
  | width + 1, n => hexDigits digit width (n / 16) ++ [digit (n % 16)]

@[simp] theorem length_hexDigits (digit : Nat → Char) (width n : Nat) :
    (hexDigits digit width n).length = width := by
  induction width generalizing n with
  | zero => rfl
  | succ w ih => simp [hexDigits, ih]

/-- Two upper-case digits. -/
def hexByte (b : UInt8) : String := String.ofList (hexDigits upperDigit 2 b.toNat)

/-- Four upper-case digits. -/
def hexWord (w : UInt16) : String := String.ofList (hexDigits upperDigit 4 w.toNat)

/-- Four lower-case digits. -/
def hexWordLower (w : UInt16) : String := String.ofList (hexDigits lowerDigit 4 w.toNat)

/-! ## Reading -/

/-- The value of a digit of base `base`, letters in either case. -/
def digitValue? (base : Nat) (c : Char) : Option Nat :=
  let value? :=
    if '0' ≤ c ∧ c ≤ '9' then some (c.toNat - 48)
    else if 'a' ≤ c ∧ c ≤ 'f' then some (c.toNat - 87)
    else if 'A' ≤ c ∧ c ≤ 'F' then some (c.toNat - 55)
    else none
  value?.filter (· < base)

/-- Digits after a value `acc` already read, up to the end of the text. -/
def readDigits (base : Nat) : (acc : Nat) → List Char → Option Nat
  | acc, [] => some acc
  | acc, c :: rest => (digitValue? base c).bind fun d => readDigits base (acc * base + d) rest

/-- An optional plus sign, then one or more digits of base `base` and nothing else, of value at
most `limit`. -/
def readUnsigned (base limit : Nat) (text : List Char) : Option Nat :=
  let digits := match text with
    | '+' :: rest => rest
    | rest => rest
  match digits with
  | [] => none
  | digits => (readDigits base 0 digits).filter (· ≤ limit)

end Benchtop.Text
