import CompositeKey.Declaration.Decoder
import CompositeKey.Document.Json

/-!
# Writing declarations as JSON

Every field is written, also where it has its default; a value that is left out
is null.
-/

set_option autoImplicit false

namespace CompositeKey

def Json.variant (name : String) (payload : Json) : Json := Json.record [(name, payload)]

def TypeShape.toJson (shape : TypeShape) : Json := Json.ofString shape.wireName

def Visibility.toJson (visibility : Visibility) : Json := Json.ofString visibility.wireName

def Capabilities.toJson (capabilities : Capabilities) : Json :=
  Json.record [
    ("span_parsable", .bool capabilities.spanParsable),
    ("parsable", .bool capabilities.parsable),
    ("span_formattable", .bool capabilities.spanFormattable),
    ("formattable", .bool capabilities.formattable)]

def EnumMember.toJson (member : EnumMember) : Json :=
  Json.record [("name", Json.ofString member.name), ("value", .integer member.value.toInt)]

def EnumShape.toJson (shape : EnumShape) : Json :=
  Json.record [("members", .array (shape.members.map EnumMember.toJson))]

def TypeInfo.toJson : TypeInfo → Json
  | .guid name => Json.record [("name", Json.ofString name), ("kind", Json.ofString "Guid")]
  | .string name => Json.record [("name", Json.ofString name), ("kind", Json.ofString "String")]
  | .enumeration name shape =>
      Json.record [("name", Json.ofString name), ("kind", Json.variant "Enum" shape.toJson)]
  | .collection name element =>
      Json.record [("name", Json.ofString name),
        ("kind", Json.variant "Collection" element.toJson)]
  | .value name capabilities =>
      Json.record [("name", Json.ofString name),
        ("kind", Json.variant "Value" capabilities.toJson)]

def Setter.toJson (setter : Setter) : Json :=
  Json.record [("visibility", setter.visibility.toJson), ("init_only", .bool setter.initOnly)]

def PropertyInfo.toJson (property : PropertyInfo) : Json :=
  Json.record [
    ("name", Json.ofString property.name),
    ("ty", property.type.toJson),
    ("getter", Json.ofOption Visibility.toJson property.getter),
    ("setter", Json.ofOption Setter.toJson property.setter)]

def Constructor.toJson (constructor : Constructor) : Json :=
  Json.record [("parameters", .array (constructor.parameters.map Json.ofString))]

def TargetType.toJson (target : TargetType) : Json :=
  Json.record [
    ("name", Json.ofString target.name),
    ("shape", target.shape.toJson),
    ("is_partial", .bool target.isPartial),
    ("properties", .array (target.properties.values.map PropertyInfo.toJson)),
    ("constructors", .array (target.constructors.map Constructor.toJson))]

def KeyConfig.toJson (config : KeyConfig) : Json :=
  Json.record [
    ("template", Json.ofString config.template),
    ("primary_separator",
      Json.ofOption (fun c => Json.ofString (String.singleton c)) config.primarySeparator),
    ("invariant_formatting", .bool config.invariantFormatting)]

def KeyDeclaration.toJson (declaration : KeyDeclaration) : Json :=
  Json.record [("target", declaration.target.toJson), ("config", declaration.config.toJson)]

end CompositeKey
