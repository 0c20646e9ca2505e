import CompositeKey.Document.Yaml

/-!
# Tokens of a YAML text

Block structure, which a text shows by columns, is written out: a block
collection begins with a token of its own and ends with `YamlToken.close`, and
`YamlToken.key` stands in front of every mapping key that a colon follows.
-/

set_option autoImplicit false

namespace CompositeKey

inductive YamlToken where
  | version (major minor : Nat)
  | handle (name : String) (meaning : Option String)
  | documentStart
  | documentEnd
  | openItems
  | openFields
  | close
  | openSequence
  | closeSequence
  | openMapping
  | closeMapping
  | comma
  | dash
  | key
  | colon
  | alias (name : String)
  | anchor (name : String)
  /-- A tag made of a handle and what follows it, or without a handle.  A part
  with escapes may be no text. -/
  | tag (handle : String) (rest : Option String)
  | scalar (style : ScalarStyle) (text : String)
  | stop
deriving DecidableEq

end CompositeKey
