import CompositeKey.Document.Basic
import CompositeKey.Document.Yaml

/-!
# YAML as a document format

Every scalar is a text; without quotes it may be a flag, an integer or nothing
as well.  A record is a mapping.  A variant with a payload is written with a
tag.  An alias is a link.
-/

set_option autoImplicit false

namespace CompositeKey

namespace Yaml

def digits? (base : Nat) (text : List Char) : Option Nat :=
  if text.isEmpty then none
  else
    text.foldlM (fun number c =>
      let value := if c.isDigit then c.toNat - '0'.toNat else c.toLower.toNat - 'a'.toNat + 10
      if c.isAlphanum && value < base then some (number * base + value) else none) 0

/-- The number without its sign: decimal without leading zeros, or behind `0x`,
`0o` or `0b`. -/
def natural? : List Char → Option Nat
  | '0' :: 'x' :: text => digits? 16 text
  | '0' :: 'o' :: text => digits? 8 text
  | '0' :: 'b' :: text => digits? 2 text
  | ['0'] => some 0
  | '0' :: _ => none
  | text => digits? 10 text

def signed? : List Char → Option Int
  | '-' :: text => (natural? text).map fun number => -(number : Int)
  | '+' :: text => (natural? text).map fun number => (number : Int)
  | text => (natural? text).map fun number => (number : Int)

def isNullWord (text : String) : Bool := ["~", "null", "Null", "NULL"].contains text

def schemaTag (name : String) : String := "tag:yaml.org,2002:" ++ name

/-- The text of a scalar that may be more than a text: one without quotes, or a
literal one whose tag says what it is. -/
def bareText? (type : String) : YamlNode → Option String
  | .scalar .plain text => some text
  | .tagged _ (.scalar .plain text) => some text
  | .tagged tag (.scalar .literal text) => if tag = schemaTag type then some text else none
  | _ => none

def link? (value : Yaml) : Option Yaml :=
  match value.root with
  | .alias number => (value.anchored.lookup number).map value.part
  | _ => none

def text? (value : Yaml) : Option String :=
  match value.root.content with
  | .scalar _ text => some text
  | _ => none

def flag? (value : Yaml) : Option Bool := do
  let text ← bareText? "bool" value.root
  if ["true", "True", "TRUE"].contains text then some true
  else if ["false", "False", "FALSE"].contains text then some false
  else none

def integer? (value : Yaml) : Option Int := do
  signed? (← bareText? "int" value.root).toList

def items? (value : Yaml) : Option (List Yaml) :=
  match value.root.content with
  | .sequence items => some (items.map value.part)
  | .scalar .plain "" => some []
  | _ => none

def record? (value : Yaml) : Option (RecordParts Yaml) :=
  match value.root.content with
  | .mapping fields =>
      some (.named (fields.map fun field => (value.part field.1, value.part field.2)))
  | .scalar .plain "" => some (.named [])
  | _ => none

def variantName? (tag : String) : Option String :=
  match tag.toList with
  | ['!'] => some "!"
  | '!' :: name => some (String.ofList name)
  | _ => none

def variant? (value : Yaml) : Option (String × Option Yaml) :=
  let unit := value.text?.map fun name => (name, none)
  match value.root with
  | .tagged tag content =>
      match variantName? tag with
      | some name => some (name, some (value.part content))
      | none => unit
  | _ => unit

def isUnit (value : Yaml) : Bool :=
  match value.root with
  | .scalar .plain text => text == "" || isNullWord text
  | _ => false

/-- Under the tag for null a scalar without quotes has to be a word for it. -/
def isAbsent? (value : Yaml) : Option Bool :=
  match value.root with
  | .tagged tag (.scalar .plain text) =>
      if tag = schemaTag "null" then if isNullWord text then some true else none
      else some false
  | _ => some value.isUnit

end Yaml

instance : Document Yaml where
  link? := Yaml.link?
  text? := Yaml.text?
  flag? := Yaml.flag?
  integer? := Yaml.integer?
  items? := Yaml.items?
  record? := Yaml.record?
  variant? := Yaml.variant?
  isAbsent? := Yaml.isAbsent?
  isUnit := Yaml.isUnit
  payloadLevels := 0

end CompositeKey
