import Benchtop.Text.Digits
import Benchtop.Toml.Basic

/-!
# Numbers, dates and words of TOML

Everything that is written without quotes or brackets is one run of letters, digits and a few signs.
`scalar?` decides what such a run is. Integers have 64 bits; floats, dates and times are recognised,
but their values are not kept.
-/

namespace Benchtop.Toml

open Text

/-! ## Digits -/

/-- Digits with single underscores between them, without the underscores. -/
def ungroup (isDigit : Char → Bool) : List Char → Option (List Char)
  | [] => none
  | [c] => if isDigit c then some [c] else none
  | c :: '_' :: rest => if isDigit c then (ungroup isDigit rest).map (c :: ·) else none
  | c :: rest => if isDigit c then (ungroup isDigit rest).map (c :: ·) else none

/-- The decimal digits of a number that has no needless zero in front. -/
def plainDigits (text : List Char) : Option (List Char) :=
  match ungroup Char.isDigit text with
  | some ('0' :: _ :: _) => none
  | digits => digits

/-- A sign and what follows it. -/
def splitSign : List Char → Bool × List Char
  | '+' :: rest => (false, rest)
  | '-' :: rest => (true, rest)
  | text => (false, text)

/-! ## Integers -/

/-- Digits of another base, as a number that fits in 63 bits. -/
def based (base : Nat) (text : List Char) : Option Int := do
  let digits ← ungroup (fun c => (digitValue? base c).isSome) text
  let n ← readUnsigned base (Int64.size / 2 - 1) digits
  return n

/-- An integer of 64 bits. -/
def integer? (text : List Char) : Option Int :=
  match text with
  | '0' :: 'x' :: rest => based 16 rest
  | '0' :: 'o' :: rest => based 8 rest
  | '0' :: 'b' :: rest => based 2 rest
  | text => do
    let (negative, rest) := splitSign text
    let digits ← plainDigits rest
    let n ← readUnsigned 10 (if negative then Int64.size / 2 else Int64.size / 2 - 1) digits
    return if negative then -n else n

/-! ## Floats -/

/-- Whether `mantissa * 10 ^ exponent` is rounded to infinity as a double. -/
def overflows (mantissa : Nat) (exponent : Int) : Bool :=
  let magnitude := exponent + (Nat.toDigits 10 mantissa).length
  let limit := Nat.pow 2 1024 - Nat.pow 2 970
  if mantissa = 0 ∨ magnitude ≤ 300 then false
  else if magnitude > 310 then true
  else if 0 ≤ exponent then limit ≤ mantissa * Nat.pow 10 exponent.toNat
  else limit * Nat.pow 10 (-exponent).toNat ≤ mantissa

/-- An exponent: a letter, a sign, and digits. -/
def exponent? : List Char → Option Int
  | c :: rest =>
    if c == 'e' || c == 'E' then do
      let (negative, rest) := splitSign rest
      let digits ← ungroup Char.isDigit rest
      let n ← readDigits 10 0 digits
      return if negative then -n else n
    else none
  | [] => none

def startsExponent (c : Char) : Bool := c == 'e' || c == 'E'

/-- A float: a number with a fraction, an exponent or both, that does not overflow; infinity; or no
number. -/
def isFloat (text : List Char) : Bool :=
  let (negative, rest) := splitSign text
  if rest == ['i', 'n', 'f'] || rest == ['n', 'a', 'n'] then true
  else
    let (whole, rest) := rest.span fun c => c != '.' && !startsExponent c
    let value? : Option (Nat × Int) := do
      let whole ← plainDigits whole
      match rest with
      | '.' :: rest =>
        let (fraction, rest) := rest.span fun c => !startsExponent c
        let fraction ← ungroup Char.isDigit fraction
        let mantissa ← readDigits 10 0 (whole ++ fraction)
        let exponent ← if rest.isEmpty then some 0 else exponent? rest
        return (mantissa, exponent - fraction.length)
      | rest => return (← readDigits 10 0 whole, ← exponent? rest)
    match value? with
    | some (mantissa, exponent) => negative || !overflows mantissa exponent
    | none => false

/-! ## Dates and times -/

/-- Two digits of a number in a range. -/
def twoDigits (low high : Nat) (a b : Char) : Bool :=
  match readUnsigned 10 high [a, b] with
  | some n => a.isDigit && low ≤ n
  | none => false

/-- The days of a month. -/
def daysIn (year month : Nat) : Nat :=
  if month = 2 then
    if year % 4 = 0 ∧ (year % 100 ≠ 0 ∨ year % 400 = 0) then 29 else 28
  else if month = 4 ∨ month = 6 ∨ month = 9 ∨ month = 11 then 30
  else 31

def isDate : List Char → Bool
  | [y₁, y₂, y₃, y₄, '-', m₁, m₂, '-', d₁, d₂] =>
    [y₁, y₂, y₃, y₄].all Char.isDigit && twoDigits 1 12 m₁ m₂ &&
      (let year := (readDigits 10 0 [y₁, y₂, y₃, y₄]).getD 0
       let month := (readDigits 10 0 [m₁, m₂]).getD 0
       twoDigits 1 (daysIn year month) d₁ d₂)
  | _ => false

/-- A time zone: `Z`, or a signed number of hours and minutes. -/
def isOffset : List Char → Bool
  | [z] => z == 'Z' || z == 'z'
  | [sign, h₁, h₂, ':', m₁, m₂] =>
    (sign == '+' || sign == '-') && twoDigits 0 23 h₁ h₂ && twoDigits 0 59 m₁ m₂
  | _ => false

/-- A time of day, with a time zone if `zoned` allows one. -/
def isTime (zoned : Bool) : List Char → Bool
  | h₁ :: h₂ :: ':' :: m₁ :: m₂ :: ':' :: s₁ :: s₂ :: rest =>
    twoDigits 0 23 h₁ h₂ && twoDigits 0 59 m₁ m₂ && twoDigits 0 60 s₁ s₂ &&
      (let isEnd (rest : List Char) := rest.isEmpty || (zoned && isOffset rest)
       match rest with
       | '.' :: rest =>
         let (digits, rest) := rest.span Char.isDigit
         !digits.isEmpty && isEnd rest
       | rest => isEnd rest)
  | _ => false

/-- A date, a date and a time, or a time. -/
def isDateTime (text : List Char) : Bool :=
  isDate text || isTime false text ||
    (isDate (text.take 10) &&
      match text.drop 10 with
      | t :: time => (t == 'T' || t == 't') && isTime true time
      | [] => false)

/-! ## Runs -/

/-- The characters of numbers, dates and words. -/
def isScalarChar (c : Char) : Bool :=
  c.isAlphanum || c == '_' || c == '+' || c == '-' || c == '.' || c == ':'

/-- What a run of such characters is. -/
def scalar? (text : List Char) : Option Node :=
  if text == ['t', 'r', 'u', 'e'] then some (.boolean true)
  else if text == ['f', 'a', 'l', 's', 'e'] then some (.boolean false)
  else if isDateTime text then some .dateTime
  else if isFloat text then some .float
  else (integer? text).map .integer

/-- Reads a number, date or word. A blank may stand between date and time. -/
def readScalar (input : List Char) : Option (Node × List Char) := do
  let (text, rest) := input.span isScalarChar
  let node ← scalar? text
  match rest with
  | ' ' :: more =>
    let (time, after) := more.span isScalarChar
    if isDate text && isTime true time then return (node, after) else return (node, rest)
  | rest => return (node, rest)

end Benchtop.Toml
