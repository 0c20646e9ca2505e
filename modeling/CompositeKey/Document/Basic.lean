/-!
# Documents

Declarations are read from documents of more than one format.  A format says
how one of its values stands for a text, a flag, a list, a record and so on,
and which of its values are links to others; `selectFields?` picks the fields
of a record.
-/

set_option autoImplicit false

namespace CompositeKey

/-- A record gives its fields under their names, which are values too, or its
values in order. -/
inductive RecordParts (δ : Type) where
  | named (fields : List (δ × δ))
  | listed (values : List δ)

section Fields

variable {δ : Type}

def fieldNamed? (fields : List (String × δ)) (name : String) : Option δ :=
  (fields.find? fun field => field.1 == name).map Prod.snd

def occurrences (fields : List (String × δ)) (name : String) : Nat :=
  fields.countP fun field => field.1 == name

/-- The values of the fields with the given names, in their order.  Other
fields are passed over; a field that comes twice is an error. -/
def selectFields? (names : List String) (fields : List (String × δ)) :
    Option (List (Option δ)) :=
  if names.all (fun name => occurrences fields name ≤ 1) then
    some (names.map (fieldNamed? fields))
  else none

/-- Values in order as the fields with the given names.  A value too many is an
error. -/
def alignFields? (names : List String) (values : List δ) : Option (List (Option δ)) :=
  if values.length ≤ names.length then
    some (values.map some ++ List.replicate (names.length - values.length) none)
  else none

end Fields

/-- How the values of a format stand for what a declaration is made of.  What
is said of a value is not said of a link to it. -/
class Document (δ : Type) where
  link? : δ → Option δ
  text? : δ → Option String
  flag? : δ → Option Bool
  integer? : δ → Option Int
  items? : δ → Option (List δ)
  record? : δ → Option (RecordParts δ)
  variant? : δ → Option (String × Option δ)
  /-- Whether a value stands for an optional value that is left out.  There is
  no answer for one that claims to do so and does not. -/
  isAbsent? : δ → Option Bool
  isUnit : δ → Bool
  /-- The number of levels a payload lies below its variant. -/
  payloadLevels : Nat

end CompositeKey
