/-!
# JSON values

Objects keep their fields in order and keep repeated names.  A number is an
integer when it is written as one; every other number stays as it is written.
-/

set_option autoImplicit false

namespace CompositeKey

/-- The text of a JSON string.  A string may escape one half of a surrogate
pair alone; it is well formed then, but is no text. -/
abbrev JsonText := Option String

inductive Json where
  | null
  | bool (value : Bool)
  | integer (value : Int)
  /-- A number with a fraction or an exponent, or `-0`. -/
  | decimal (literal : String)
  | string (text : JsonText)
  | array (items : List Json)
  | object (fields : List (JsonText × Json))
deriving Inhabited

namespace Json

def ofString (text : String) : Json := .string (some text)

def record (fields : List (String × Json)) : Json :=
  .object (fields.map fun field => (some field.1, field.2))

def ofOption {α : Type} (encode : α → Json) : Option α → Json
  | none => .null
  | some value => encode value

def field? (name : String) : Json → Option Json
  | .object fields => (fields.find? fun field => field.1 == some name).map Prod.snd
  | _ => none

end Json

end CompositeKey
