/-!
# Text forms of identifiers
-/

set_option autoImplicit false

namespace CompositeKey

inductive GuidFormat where
  | hyphenated
  | digits
  | braced
  | parenthesised
  | hexadecimal
deriving DecidableEq

namespace GuidFormat

/-- The form a format string selects; without one it is the hyphenated form. -/
def ofSpecifier? : Option String → Option GuidFormat
  | none => some .hyphenated
  | some "D" => some .hyphenated
  | some "d" => some .hyphenated
  | some "N" => some .digits
  | some "n" => some .digits
  | some "B" => some .braced
  | some "b" => some .braced
  | some "P" => some .parenthesised
  | some "p" => some .parenthesised
  | some "X" => some .hexadecimal
  | some "x" => some .hexadecimal
  | some _ => none

def length : GuidFormat → Nat
  | .hyphenated => 36
  | .digits => 32
  | .braced => 38
  | .parenthesised => 38
  | .hexadecimal => 68

def letter : GuidFormat → String
  | .hyphenated => "D"
  | .digits => "N"
  | .braced => "B"
  | .parenthesised => "P"
  | .hexadecimal => "X"

end GuidFormat

end CompositeKey
