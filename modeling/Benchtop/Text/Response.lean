import Benchtop.Text.Blank
import Benchtop.Text.Utf8

/-!
# The text of an answer

Instruments end their answers with line ends of their own choice. The text of an answer is its
UTF-8 text without the line ends at the end.
-/

namespace Benchtop.Text

/-- Carriage return and line feed. -/
def isLineEnd (c : Char) : Bool := c == '\r' || c == '\n'

/-- The text of an answer without the line ends at its end. -/
def responseText (answer : List UInt8) : List Char := dropEnd isLineEnd (decode answer)

end Benchtop.Text
