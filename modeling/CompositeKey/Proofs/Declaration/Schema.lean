import CompositeKey.Declaration.Encoder

/-!
# The records of a document of declarations

Which records a document is made of, the fields of each in order, and what a field that
may be left out stands for then.  A change of the fields of a record is carried to a
document by a path from the document to the record.
-/

set_option autoImplicit false

namespace CompositeKey

inductive RecordKind where
  | declaration
  | config
  | target
  | property
  | type
  | setter
  | constructor
  | capabilities
  | enumeration
  | member
deriving DecidableEq

/-- What a value of a document is, as far as it has records in it. -/
inductive Content where
  | leaf
  | record (kind : RecordKind)
  | list (kind : RecordKind)
  | optional (kind : RecordKind)
  | typeKind
deriving DecidableEq

structure Field where
  name : String
  content : Content
  /-- The value that the field stands for when it is left out, if it may be. -/
  fallback : Option Json

namespace RecordKind

/-- The fields of a record, in the order in which an array gives their values. -/
def fields : RecordKind → List Field
  | .declaration =>
      [⟨"target", .record .target, none⟩,
        ⟨"config", .record .config, none⟩]
  | .config =>
      [⟨"template", .leaf, none⟩,
        ⟨"primary_separator", .leaf, some .null⟩,
        ⟨"invariant_formatting", .leaf, some (.bool true)⟩]
  | .target =>
      [⟨"name", .leaf, none⟩,
        ⟨"shape", .leaf, none⟩,
        ⟨"is_partial", .leaf, none⟩,
        ⟨"properties", .list .property, none⟩,
        ⟨"constructors", .list .constructor, some (.array [])⟩]
  | .property =>
      [⟨"name", .leaf, none⟩,
        ⟨"ty", .record .type, none⟩,
        ⟨"getter", .leaf, some .null⟩,
        ⟨"setter", .optional .setter, some .null⟩]
  | .type =>
      [⟨"name", .leaf, none⟩,
        ⟨"kind", .typeKind, none⟩]
  | .setter =>
      [⟨"visibility", .leaf, none⟩,
        ⟨"init_only", .leaf, some (.bool false)⟩]
  | .constructor =>
      [⟨"parameters", .leaf, none⟩]
  | .capabilities =>
      [⟨"span_parsable", .leaf, some (.bool false)⟩,
        ⟨"parsable", .leaf, some (.bool false)⟩,
        ⟨"span_formattable", .leaf, some (.bool false)⟩,
        ⟨"formattable", .leaf, some (.bool false)⟩]
  | .enumeration =>
      [⟨"members", .list .member, none⟩]
  | .member =>
      [⟨"name", .leaf, none⟩,
        ⟨"value", .leaf, none⟩]

def fieldNames (kind : RecordKind) : List String := kind.fields.map Field.name

theorem nodup_fieldNames (kind : RecordKind) : kind.fieldNames.Nodup := by
  cases kind <;> decide

def ofVariant? : String → Option RecordKind
  | "Collection" => some .type
  | "Enum" => some .enumeration
  | "Value" => some .capabilities
  | _ => none

end RecordKind

/-- A change of the fields of one record, carried to what has the record in it.  A record
is an object, or an array of its values. -/
inductive Within
    (change : RecordKind → List (String × Json) → List (String × Json) → Prop) :
    Content → Json → Json → Prop where
  | here {kind : RecordKind} {old new : List (String × Json)} (changed : change kind old new) :
      Within change (.record kind) (Json.record old) (Json.record new)
  | field {kind : RecordKind} {field : Field} {old new : Json} {front back : List (String × Json)}
      (member : field ∈ kind.fields) (inside : Within change field.content old new) :
      Within change (.record kind) (Json.record (front ++ (field.name, old) :: back))
        (Json.record (front ++ (field.name, new) :: back))
  | position {kind : RecordKind} {field : Field} {first last : List Field} {old new : Json}
      {front back : List Json} (fields : kind.fields = first ++ field :: last)
      (aligned : front.length = first.length) (inside : Within change field.content old new) :
      Within change (.record kind) (.array (front ++ old :: back)) (.array (front ++ new :: back))
  | item {kind : RecordKind} {old new : Json} {front back : List Json}
      (inside : Within change (.record kind) old new) :
      Within change (.list kind) (.array (front ++ old :: back)) (.array (front ++ new :: back))
  | present {kind : RecordKind} {old new : Json} (inside : Within change (.record kind) old new) :
      Within change (.optional kind) old new
  | payload {variant : String} {kind : RecordKind} {old new : Json}
      (known : RecordKind.ofVariant? variant = some kind)
      (inside : Within change (.record kind) old new) :
      Within change .typeKind (Json.variant variant old) (Json.variant variant new)

/-- A change of how a record is written, and not of what it says: its fields in another
order, one field more with a name that is no field's, or a field with its default left out. -/
inductive Respelled (kind : RecordKind) :
    List (String × Json) → List (String × Json) → Prop where
  | reordered {old new : List (String × Json)} (permuted : old.Perm new) :
      Respelled kind old new
  | added {name : String} {front back : List (String × Json)} (unknown : name ∉ kind.fieldNames)
      (value : Json) :
      Respelled kind (front ++ back) (front ++ (name, value) :: back)
  | omitted {field : Field} {value : Json} {front back : List (String × Json)}
      (member : field ∈ kind.fields) (default : field.fallback = some value) :
      Respelled kind (front ++ (field.name, value) :: back) (front ++ back)

/-- A field is taken away that may not be left out, whatever its value is. -/
inductive Stripped (kind : RecordKind) :
    List (String × Json) → List (String × Json) → Prop where
  | removed {field : Field} {value : Json} {front back : List (String × Json)}
      (member : field ∈ kind.fields) (required : field.fallback = none) :
      Stripped kind (front ++ (field.name, value) :: back) (front ++ back)

end CompositeKey
