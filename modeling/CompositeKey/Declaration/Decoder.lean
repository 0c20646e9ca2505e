import CompositeKey.Declaration
import CompositeKey.Document.Decoder

/-!
# Reading declarations from documents
-/

set_option autoImplicit false

namespace CompositeKey

variable {δ : Type} [Document δ]

namespace TypeShape

def wireName : TypeShape → String
  | .classType => "Class"
  | .recordType => "Record"
  | .structType => "Struct"
  | .interfaceType => "Interface"
  | .enumType => "Enum"

def all : List TypeShape := [.classType, .recordType, .structType, .interfaceType, .enumType]

def decoder : Decoder δ TypeShape :=
  Decoder.unitVariant (all.map fun shape => (shape.wireName, shape))

end TypeShape

namespace Visibility

def wireName : Visibility → String
  | .publicMember => "Public"
  | .internalMember => "Internal"
  | .protectedMember => "Protected"
  | .privateMember => "Private"

def all : List Visibility := [.publicMember, .internalMember, .protectedMember, .privateMember]

def decoder : Decoder δ Visibility :=
  Decoder.unitVariant (all.map fun visibility => (visibility.wireName, visibility))

end Visibility

def Capabilities.decoder : Decoder δ Capabilities :=
  Decoder.record ["span_parsable", "parsable", "span_formattable", "formattable"] fun
      depth fields =>
    match fields with
    | [spanParsable, parsable, spanFormattable, formattable] => do
        return {
          spanParsable := ← Decoder.defaulted false Decoder.flag depth spanParsable
          parsable := ← Decoder.defaulted false Decoder.flag depth parsable
          spanFormattable := ← Decoder.defaulted false Decoder.flag depth spanFormattable
          formattable := ← Decoder.defaulted false Decoder.flag depth formattable }
    | _ => failure

def EnumMember.decoder : Decoder δ EnumMember :=
  Decoder.record ["name", "value"] fun depth fields =>
    match fields with
    | [name, value] => do
        return {
          name := ← Decoder.required Decoder.text depth name
          value := ← Decoder.required Decoder.integer depth value }
    | _ => failure

def EnumShape.decoder : Decoder δ EnumShape :=
  Decoder.record ["members"] fun depth fields =>
    match fields with
    | [members] => do
        return ⟨← Decoder.required (Decoder.list EnumMember.decoder) depth members⟩
    | _ => failure

def TypeInfo.ofUnitKind? (name : String) : String → Option TypeInfo
  | "Guid" => some (.guid name)
  | "String" => some (.string name)
  | _ => none

def TypeInfo.decoder : Decoder δ TypeInfo
  | 0, _ => failure
  | depth + 1, document => do
      match ← Decoder.fields ["name", "kind"] document with
      | [nameField, some kind] =>
          let name ← Decoder.required Decoder.text depth nameField
          match ← Decoder.variant kind with
          | (variant, none) => TypeInfo.ofUnitKind? name variant
          | (variant, some payload) =>
              if Document.payloadLevels δ ≤ depth then
                let inner := depth - Document.payloadLevels δ
                if variant = "Collection" then
                  return .collection name (← TypeInfo.decoder inner payload)
                else if variant = "Enum" then
                  return .enumeration name (← EnumShape.decoder inner payload)
                else if variant = "Value" then
                  return .value name (← Capabilities.decoder inner payload)
                else if Document.isUnit payload then TypeInfo.ofUnitKind? name variant
                else failure
              else failure
      | _ => failure
termination_by depth => depth
decreasing_by exact Nat.lt_succ_of_le (Nat.sub_le depth (Document.payloadLevels δ))

def Setter.decoder : Decoder δ Setter :=
  Decoder.record ["visibility", "init_only"] fun depth fields =>
    match fields with
    | [visibility, initOnly] => do
        return {
          visibility := ← Decoder.required Visibility.decoder depth visibility
          initOnly := ← Decoder.defaulted false Decoder.flag depth initOnly }
    | _ => failure

def PropertyInfo.decoder : Decoder δ PropertyInfo :=
  Decoder.record ["name", "ty", "getter", "setter"] fun depth fields =>
    match fields with
    | [name, type, getter, setter] => do
        return {
          name := ← Decoder.required Decoder.text depth name
          type := ← Decoder.required TypeInfo.decoder depth type
          getter := ← Decoder.defaulted none (Decoder.optional Visibility.decoder) depth getter
          setter := ← Decoder.defaulted none (Decoder.optional Setter.decoder) depth setter }
    | _ => failure

def Constructor.decoder : Decoder δ Constructor :=
  Decoder.record ["parameters"] fun depth fields =>
    match fields with
    | [parameters] => do
        return ⟨← Decoder.required (Decoder.list Decoder.text) depth parameters⟩
    | _ => failure

def propertyTable (properties : List PropertyInfo) : OrderedMap String PropertyInfo :=
  OrderedMap.ofList (properties.map fun property => (property.name, property))

def TargetType.decoder : Decoder δ TargetType :=
  Decoder.record ["name", "shape", "is_partial", "properties", "constructors"] fun depth fields =>
    match fields with
    | [name, shape, isPartial, properties, constructors] => do
        let list ← Decoder.required (Decoder.list PropertyInfo.decoder) depth properties
        return {
          name := ← Decoder.required Decoder.text depth name
          shape := ← Decoder.required TypeShape.decoder depth shape
          isPartial := ← Decoder.required Decoder.flag depth isPartial
          properties := propertyTable list
          constructors :=
            ← Decoder.defaulted [] (Decoder.list Constructor.decoder) depth constructors }
    | _ => failure

def KeyConfig.decoder : Decoder δ KeyConfig :=
  Decoder.record ["template", "primary_separator", "invariant_formatting"] fun depth fields =>
    match fields with
    | [template, separator, invariant] => do
        return {
          template := ← Decoder.required Decoder.text depth template
          primarySeparator := ←
            Decoder.defaulted none (Decoder.optional Decoder.character) depth separator
          invariantFormatting := ← Decoder.defaulted true Decoder.flag depth invariant }
    | _ => failure

def KeyDeclaration.decoder : Decoder δ KeyDeclaration :=
  Decoder.record ["target", "config"] fun depth fields =>
    match fields with
    | [target, config] => do
        return {
          target := ← Decoder.required TargetType.decoder depth target
          config := ← Decoder.required KeyConfig.decoder depth config }
    | _ => failure

end CompositeKey
