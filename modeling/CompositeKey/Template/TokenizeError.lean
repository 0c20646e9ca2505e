import CompositeKey.Text.Range

/-!
# Why a template cannot be read

Reading a template stops at its first malformed construct.
-/

set_option autoImplicit false

namespace CompositeKey

inductive TokenizeError where
  | emptyTemplate
  | invalidPrimarySeparator (separator : Char)
  | unterminatedProperty (start : Nat)
  | nestedPropertyOpen (range : TextRange)
  | emptyPropertyName (range : TextRange)
  | missingRepeatingSeparator (name : String) (range : TextRange)
  | trailingRepeatingText (name : String) (range : TextRange)
  | emptyFormat (name : String) (range : TextRange)
  | duplicatePrimarySeparator (separator : Char) (range : TextRange)
deriving DecidableEq

namespace TokenizeError

def range? : TokenizeError → Option TextRange
  | .emptyTemplate => none
  | .invalidPrimarySeparator _ => none
  | .unterminatedProperty start => some (TextRange.empty start)
  | .nestedPropertyOpen range => some range
  | .emptyPropertyName range => some range
  | .missingRepeatingSeparator _ range => some range
  | .trailingRepeatingText _ range => some range
  | .emptyFormat _ range => some range
  | .duplicatePrimarySeparator _ range => some range

def message : TokenizeError → String
  | .emptyTemplate => "template is empty"
  | .invalidPrimarySeparator separator =>
      s!"primary separator '{separator}' is not usable: it must lex as a single delimiter"
  | .unterminatedProperty start =>
      s!"property opened at {clampOffset start} is never closed"
  | .nestedPropertyOpen range =>
      s!"unexpected '\x7b' inside property at {range.written}"
  | .emptyPropertyName range => s!"property at {range.written} has no name"
  | .missingRepeatingSeparator name _ =>
      s!"repeating property '{name}' has no separator after '...'"
  | .trailingRepeatingText name _ =>
      s!"unexpected text after the separator of repeating property '{name}'"
  | .emptyFormat name _ => s!"property '{name}' has an empty format"
  | .duplicatePrimarySeparator separator _ =>
      s!"primary separator '{separator}' appears more than once"

end TokenizeError

end CompositeKey
