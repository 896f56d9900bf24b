import Benchtop.Text.Digits
import Benchtop.Toml.Basic

/-!
# Strings, keys and space of TOML

Four kinds of strings, in single or double quotes, on one line or several; keys, bare or quoted; and
the space between things. A string is first cut out of the input with its escapes as they are, and
then read.
-/

namespace Benchtop.Toml

open Text

/-! ## Space -/

def isSpace (c : Char) : Bool := c == ' ' || c == '\t'

def skipSpace (input : List Char) : List Char := input.dropWhile isSpace

/-- A character that may stand on a line: a tab, or no control character. -/
def isLineChar (c : Char) : Bool := c == '\t' || (0x20 ≤ c.toNat && c.toNat != 0x7F)

/-- The input after a line end. -/
def afterNewline? : List Char → Option (List Char)
  | '\n' :: rest => some rest
  | '\r' :: '\n' :: rest => some rest
  | _ => none

/-- The input after the end of a line, or of the document. -/
def afterLineEnd? : List Char → Option (List Char)
  | [] => some []
  | input => afterNewline? input

/-- The input after what may follow a thing on its line: space, a comment, and the line's end. -/
def afterLine? (input : List Char) : Option (List Char) :=
  match skipSpace input with
  | '#' :: rest => afterLineEnd? (rest.dropWhile isLineChar)
  | rest => afterLineEnd? rest

/-- Skips space, line ends and comments. -/
def skipFiller : (inComment : Bool) → List Char → List Char
  | _, '\r' :: '\n' :: rest => skipFiller false rest
  | _, '\n' :: rest => skipFiller false rest
  | false, '#' :: rest => skipFiller true rest
  | inComment, c :: rest =>
    if isSpace c || (inComment && isLineChar c) then skipFiller inComment rest else c :: rest
  | _, [] => []

/-! ## Strings -/

/-- The character of hexadecimal digits, unless it is a surrogate or too large. -/
def scalarValue? (digits : List Char) : Option Char := do
  if digits.all fun c => (digitValue? 16 c).isSome then
    let n ← readDigits 16 0 digits
    if h : n.isValidChar then return Char.ofNatAux n h else none
  else none

/-- The character of a one-letter escape. -/
def shortEscape? (c : Char) : Option Char :=
  if c == 'b' then some (Char.ofNat 8)
  else if c == 't' then some '\t'
  else if c == 'n' then some '\n'
  else if c == 'f' then some (Char.ofNat 12)
  else if c == 'r' then some '\r'
  else if c == '"' then some '"'
  else if c == '\\' then some '\\'
  else none

/-- Reads the escapes in a string of one line. -/
def unescape : List Char → Option (List Char)
  | [] => some []
  | '\\' :: 'u' :: a :: b :: c :: d :: rest => do
    return (← scalarValue? [a, b, c, d]) :: (← unescape rest)
  | '\\' :: 'U' :: a :: b :: c :: d :: e :: f :: g :: h :: rest => do
    return (← scalarValue? [a, b, c, d, e, f, g, h]) :: (← unescape rest)
  | '\\' :: letter :: rest => do return (← shortEscape? letter) :: (← unescape rest)
  | '\\' :: [] => none
  | c :: rest => do return c :: (← unescape rest)

/-- Reads the escapes in a string of several lines, and its line ends. A backslash at the end of a
line takes away all space up to the next character; `skipping` says that this is going on. -/
def unescapeLines : (skipping : Bool) → List Char → Option (List Char)
  | _, [] => some []
  | skipping, '\r' :: '\n' :: rest => do
    let text ← unescapeLines skipping rest
    return if skipping then text else '\n' :: text
  | _, '\r' :: _ => none
  | skipping, '\n' :: rest => do
    let text ← unescapeLines skipping rest
    return if skipping then text else '\n' :: text
  | _, '\\' :: 'u' :: a :: b :: c :: d :: rest => do
    return (← scalarValue? [a, b, c, d]) :: (← unescapeLines false rest)
  | _, '\\' :: 'U' :: a :: b :: c :: d :: e :: f :: g :: h :: rest => do
    return (← scalarValue? [a, b, c, d, e, f, g, h]) :: (← unescapeLines false rest)
  | _, '\\' :: rest =>
    if (afterNewline? (skipSpace rest)).isSome then unescapeLines true rest
    else
      match rest with
      | letter :: rest => do return (← shortEscape? letter) :: (← unescapeLines false rest)
      | [] => none
  | skipping, c :: rest =>
    if skipping && isSpace c then unescapeLines true rest
    else do return c :: (← unescapeLines false rest)

/-- Cuts a string of one line, after its opening quote, out of the input. -/
def cutLine (quote : Char) (escapes : Bool) : List Char → Option (List Char × List Char)
  | [] => none
  | c :: rest =>
    if c == quote then some ([], rest)
    else if escapes && c == '\\' then
      match rest with
      | [] => none
      | d :: rest => (cutLine quote escapes rest).map fun (text, rest) => (c :: d :: text, rest)
    else if isLineChar c then (cutLine quote escapes rest).map fun (text, rest) => (c :: text, rest)
    else none

/-- Cuts a string of several lines, after its opening quotes, out of the input. Up to two more
quotes before the closing ones belong to it. -/
def cutLines (quote : Char) (escapes : Bool) : List Char → Option (List Char × List Char)
  | [] => none
  | c :: rest =>
    if c == quote && rest.take 2 == [quote, quote] then
      let more := rest.drop 2
      let extra := (more.take 2).takeWhile (· == quote)
      some (extra, more.drop extra.length)
    else if escapes && c == '\\' then
      match rest with
      | [] => none
      | d :: rest => (cutLines quote escapes rest).map fun (text, rest) => (c :: d :: text, rest)
    else if c == '\n' || c == '\r' || isLineChar c then
      (cutLines quote escapes rest).map fun (text, rest) => (c :: text, rest)
    else none

/-- The line ends of a string without escapes. -/
def plainLines : List Char → Option (List Char)
  | [] => some []
  | '\r' :: '\n' :: rest => (plainLines rest).map ('\n' :: ·)
  | '\r' :: _ => none
  | c :: rest => (plainLines rest).map (c :: ·)

/-- Reads a string of one line. -/
def readLineString : List Char → Option (List Char × List Char)
  | '"' :: rest => do
    let (text, rest) ← cutLine '"' true rest
    return (← unescape text, rest)
  | '\'' :: rest => cutLine '\'' false rest
  | _ => none

/-- Reads a string. A line end right after the opening quotes of a string of several lines is not
part of it. -/
def readString : List Char → Option (List Char × List Char)
  | '"' :: '"' :: '"' :: rest => do
    let (text, rest) ← cutLines '"' true ((afterNewline? rest).getD rest)
    return (← unescapeLines false text, rest)
  | '\'' :: '\'' :: '\'' :: rest => do
    let (text, rest) ← cutLines '\'' false ((afterNewline? rest).getD rest)
    return (← plainLines text, rest)
  | input => readLineString input

/-! ## Keys -/

def isBareKeyChar (c : Char) : Bool := c.isAlphanum || c == '_' || c == '-'

/-- Reads one part of a key. -/
def readKeyPart (input : List Char) : Option (String × List Char) :=
  match input with
  | '"' :: _ => (readLineString input).map fun (text, rest) => (String.ofList text, rest)
  | '\'' :: _ => (readLineString input).map fun (text, rest) => (String.ofList text, rest)
  | _ =>
    let (text, rest) := input.span isBareKeyChar
    if text.isEmpty then none else some (String.ofList text, rest)

/-- Tables, arrays and keys may be nested less deep than this. -/
def depthLimit : Nat := 80

/-- Reads the parts of a key, with dots between them and space around them. -/
def readKeyParts : (fuel : Nat) → List Char → Option (List String × List Char)
  | 0, _ => none
  | fuel + 1, input => do
    let (part, rest) ← readKeyPart (skipSpace input)
    match skipSpace rest with
    | '.' :: rest =>
      let (parts, rest) ← readKeyParts fuel rest
      return (part :: parts, rest)
    | rest => return ([part], rest)

/-- Reads a key. -/
def readKey (input : List Char) : Option (List String × List Char) :=
  (readKeyParts (input.length + 1) input).filter fun (parts, _) => parts.length < depthLimit

end Benchtop.Toml
