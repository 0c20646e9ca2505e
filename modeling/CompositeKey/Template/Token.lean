import CompositeKey.Text.Range

/-!
# Tokens of a template
-/

set_option autoImplicit false

namespace CompositeKey

inductive TemplateToken where
  | primaryDelimiter (c : Char)
  | delimiter (c : Char)
  | property (name : String) (format : Option String)
  | constant (text : String)
  | repeatingProperty (name : String) (separator : Char) (format : Option String)
deriving DecidableEq

namespace TemplateToken

def propertyName? : TemplateToken → Option String
  | .property name _ => some name
  | .repeatingProperty name _ _ => some name
  | _ => none

def isPrimaryDelimiter : TemplateToken → Bool
  | .primaryDelimiter _ => true
  | _ => false

def isRepeating : TemplateToken → Bool
  | .repeatingProperty _ _ _ => true
  | _ => false

def writtenFormat : Option String → List Char
  | none => []
  | some format => ':' :: format.toList

/-- The text a token is read from. -/
def written : TemplateToken → List Char
  | .primaryDelimiter c => [c]
  | .delimiter c => [c]
  | .constant text => text.toList
  | .property name format => '{' :: name.toList ++ writtenFormat format ++ ['}']
  | .repeatingProperty name separator format =>
      '{' :: name.toList ++ ['.', '.', '.', separator] ++ writtenFormat format ++ ['}']

end TemplateToken

structure Token where
  value : TemplateToken
  range : TextRange
deriving DecidableEq

end CompositeKey
