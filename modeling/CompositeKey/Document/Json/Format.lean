import CompositeKey.Document.Basic
import CompositeKey.Document.Json

/-!
# JSON as a document format

There are no links.  A variant is its name, or an object whose only field has
that name and holds the payload.
-/

set_option autoImplicit false

namespace CompositeKey

namespace Json

def text? : Json → Option String
  | .string text => text
  | _ => none

def flag? : Json → Option Bool
  | .bool value => some value
  | _ => none

def integer? : Json → Option Int
  | .integer value => some value
  | _ => none

def items? : Json → Option (List Json)
  | .array items => some items
  | _ => none

def record? : Json → Option (RecordParts Json)
  | .object fields => some (.named (fields.map fun field => (.string field.1, field.2)))
  | .array values => some (.listed values)
  | _ => none

def variant? : Json → Option (String × Option Json)
  | .string (some name) => some (name, none)
  | .object [(some name, payload)] => some (name, some payload)
  | _ => none

def isNull : Json → Bool
  | .null => true
  | _ => false

end Json

instance : Document Json where
  link? := fun _ => none
  text? := Json.text?
  flag? := Json.flag?
  integer? := Json.integer?
  items? := Json.items?
  record? := Json.record?
  variant? := Json.variant?
  isAbsent? := fun value => some value.isNull
  isUnit := Json.isNull
  payloadLevels := 1

end CompositeKey
