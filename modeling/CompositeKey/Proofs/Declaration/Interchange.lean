import CompositeKey.Loading
import CompositeKey.Proofs.Declaration.TypeKind
import CompositeKey.Proofs.Document.Json.RoundTrip
import CompositeKey.Proofs.Target.Keyed

/-!
# Declarations survive interchange

A list of declarations that is written as JSON is loaded as the same list.  Every part
of a declaration is restored from what it is written as.  A property table is written as
the list of its properties, which tells it when each of them stands under its own name.
-/

set_option autoImplicit false

namespace CompositeKey

open Decoder

theorem restores_capabilities (capabilities : Capabilities) :
    Restores Capabilities.decoder capabilities.toJson capabilities := by
  rw [Capabilities.decoder, Capabilities.toJson]
  refine restores_record rfl (by decide) ?_
  intro levels _
  rfl

theorem restores_enumMember (member : EnumMember) :
    Restores EnumMember.decoder member.toJson member := by
  rw [EnumMember.decoder, EnumMember.toJson]
  refine restores_record rfl (by decide) ?_
  intro levels deep
  obtain ⟨name, value⟩ := deep
  have name := restores_text member.name levels name
  have value := restores_integer member.value levels value
  simp [required, name, value]

theorem restores_enumShape (shape : EnumShape) :
    Restores EnumShape.decoder shape.toJson shape := by
  rw [EnumShape.decoder, EnumShape.toJson]
  refine restores_record rfl (by decide) ?_
  intro levels members
  have members := restores_list (fun member _ => restores_enumMember member) levels members
  simp [required, members]

theorem restores_typeInfo (type : TypeInfo) : Restores TypeInfo.decoder type.toJson type := by
  induction type with
  | guid name => exact TypeInfo.restores_of_kind fun _ _ => rfl
  | string name => exact TypeInfo.restores_of_kind fun _ _ => rfl
  | enumeration name shape =>
      refine TypeInfo.restores_of_kind (TypeInfo.restores_of_payload ?_)
      intro levels deep
      rw [TypeInfo.payloadDecoder, if_neg (by decide), if_pos rfl,
        restores_enumShape shape levels deep]
      rfl
  | collection name element ih =>
      refine TypeInfo.restores_of_kind (TypeInfo.restores_of_payload ?_)
      intro levels deep
      rw [TypeInfo.payloadDecoder, if_pos rfl, ih levels deep]
      rfl
  | value name capabilities =>
      refine TypeInfo.restores_of_kind (TypeInfo.restores_of_payload ?_)
      intro levels deep
      rw [TypeInfo.payloadDecoder, if_neg (by decide), if_neg (by decide), if_pos rfl,
        restores_capabilities capabilities levels deep]
      rfl

theorem restores_typeShape (shape : TypeShape) :
    Restores TypeShape.decoder shape.toJson shape := by
  apply restores_unitVariant
  cases shape <;> decide

theorem restores_visibility (visibility : Visibility) :
    Restores Visibility.decoder visibility.toJson visibility := by
  apply restores_unitVariant
  cases visibility <;> decide

theorem restores_setter (setter : Setter) : Restores Setter.decoder setter.toJson setter := by
  rw [Setter.decoder, Setter.toJson]
  refine restores_record rfl (by decide) ?_
  intro levels deep
  obtain ⟨visibility, initOnly⟩ := deep
  have visibility := restores_visibility setter.visibility levels visibility
  have initOnly := restores_flag setter.initOnly levels initOnly
  simp [required, defaulted, visibility, initOnly]

theorem restores_property (property : PropertyInfo) :
    Restores PropertyInfo.decoder property.toJson property := by
  rw [PropertyInfo.decoder, PropertyInfo.toJson]
  refine restores_record rfl (by decide) ?_
  intro levels deep
  obtain ⟨name, type, getter, setter⟩ := deep
  have name := restores_text property.name levels name
  have type := restores_typeInfo property.type levels type
  have getter := restores_optional (fun _ => rfl) restores_visibility property.getter levels getter
  have setter := restores_optional (fun _ => rfl) restores_setter property.setter levels setter
  simp [required, defaulted, name, type, getter, setter]

theorem restores_constructor (constructor : Constructor) :
    Restores Constructor.decoder constructor.toJson constructor := by
  rw [Constructor.decoder, Constructor.toJson]
  refine restores_record rfl (by decide) ?_
  intro levels parameters
  have parameters := restores_list (fun parameter _ => restores_text parameter) levels parameters
  simp [required, parameters]

/-- A target type as it is written, with a list of properties in place of its own. -/
def TargetType.listedJson (target : TargetType) (properties : List PropertyInfo) : Json :=
  Json.record [
    ("name", Json.ofString target.name),
    ("shape", target.shape.toJson),
    ("is_partial", .bool target.isPartial),
    ("properties", .array (properties.map PropertyInfo.toJson)),
    ("constructors", .array (target.constructors.map Constructor.toJson))]

theorem restores_listedJson (target : TargetType) (properties : List PropertyInfo) :
    Restores TargetType.decoder (target.listedJson properties)
      { target with properties := propertyTable properties } := by
  rw [TargetType.decoder, TargetType.listedJson]
  refine restores_record rfl (by decide) ?_
  intro levels deep
  obtain ⟨name, shape, isPartial, listed, constructors⟩ := deep
  have name := restores_text target.name levels name
  have shape := restores_typeShape target.shape levels shape
  have isPartial := restores_flag target.isPartial levels isPartial
  have listed := restores_list (fun property _ => restores_property property) levels listed
  have constructors :=
    restores_list (fun constructor _ => restores_constructor constructor) levels constructors
  simp [required, defaulted, name, shape, isPartial, listed, constructors]

theorem restores_target {target : TargetType} (keyed : KeyedByName target.properties) :
    Restores TargetType.decoder target.toJson target := by
  have listed := restores_listedJson target target.properties.values
  rw [keyed.propertyTable_values] at listed
  exact listed

theorem restores_config (config : KeyConfig) :
    Restores KeyConfig.decoder config.toJson config := by
  rw [KeyConfig.decoder, KeyConfig.toJson]
  refine restores_record rfl (by decide) ?_
  intro levels deep
  obtain ⟨template, separator, invariant⟩ := deep
  have template := restores_text config.template levels template
  have separator :=
    restores_optional (fun _ => rfl) restores_character config.primarySeparator levels separator
  have invariant := restores_flag config.invariantFormatting levels invariant
  simp [required, defaulted, template, separator, invariant]

theorem restores_declaration {declaration : KeyDeclaration}
    (keyed : KeyedByName declaration.target.properties) :
    Restores KeyDeclaration.decoder declaration.toJson declaration := by
  rw [KeyDeclaration.decoder, KeyDeclaration.toJson]
  refine restores_record rfl (by decide) ?_
  intro levels deep
  obtain ⟨target, config⟩ := deep
  have target := restores_target keyed levels target
  have config := restores_config declaration.config levels config
  simp [required, target, config]

def declarationsJson (declarations : List KeyDeclaration) : Json :=
  .array (declarations.map KeyDeclaration.toJson)

theorem declarationsOf?_declarationsJson {declarations : List KeyDeclaration} {levels : Nat}
    (keyed : ∀ declaration ∈ declarations, KeyedByName declaration.target.properties)
    (shallow : (declarationsJson declarations).depth ≤ levels) (links : Nat) :
    declarationsOf? levels links (declarationsJson declarations) = some declarations := by
  have restored : Restores (Decoder.list KeyDeclaration.decoder) (declarationsJson declarations)
      declarations :=
    restores_list fun declaration member => restores_declaration (keyed declaration member)
  rw [declarationsOf?, Decoder.run, restored levels shallow]
  rfl

theorem noDecimal_typeInfo (type : TypeInfo) : type.toJson.NoDecimal := by
  induction type with
  | guid name => simp [TypeInfo.toJson]
  | string name => simp [TypeInfo.toJson]
  | enumeration name shape =>
      simp [TypeInfo.toJson, Json.variant, EnumShape.toJson, EnumMember.toJson]
  | collection name element ih => simp [TypeInfo.toJson, Json.variant, ih]
  | value name capabilities => simp [TypeInfo.toJson, Json.variant, Capabilities.toJson]

theorem noDecimal_property (property : PropertyInfo) : property.toJson.NoDecimal := by
  have getter : (Json.ofOption Visibility.toJson property.getter).NoDecimal :=
    Json.noDecimal_ofOption (fun _ => Json.noDecimal_ofString _) property.getter
  have setter : (Json.ofOption Setter.toJson property.setter).NoDecimal := by
    refine Json.noDecimal_ofOption (fun setter => ?_) property.setter
    simp [Setter.toJson, Visibility.toJson]
  simp [PropertyInfo.toJson, noDecimal_typeInfo, getter, setter]

theorem noDecimal_declarationsJson (declarations : List KeyDeclaration) :
    (declarationsJson declarations).NoDecimal := by
  have config : ∀ config : KeyConfig, config.toJson.NoDecimal := by
    intro config
    have separator := Json.noDecimal_ofOption
      (fun c => Json.noDecimal_ofString (String.singleton c)) config.primarySeparator
    simp [KeyConfig.toJson, separator]
  simp [declarationsJson, KeyDeclaration.toJson, TargetType.toJson, TypeShape.toJson,
    Constructor.toJson, noDecimal_property, config]

theorem loadJson_eq_ok_iff {text : String} {declarations : List KeyDeclaration} :
    loadJson text = .ok declarations ↔
      ∃ document, Json.parse? text = some document ∧
        declarationsOf? jsonLevels 0 document = some declarations := by
  rw [← Option.bind_eq_some_iff, loadJson]
  cases (Json.parse? text).bind (declarationsOf? jsonLevels 0) <;> simp

theorem loadJson_of_parse? {text : String} {declarations : List KeyDeclaration}
    (parsed : Json.parse? text = some (declarationsJson declarations))
    (keyed : ∀ declaration ∈ declarations, KeyedByName declaration.target.properties)
    (shallow : (declarationsJson declarations).depth ≤ jsonLevels) :
    loadJson text = .ok declarations :=
  loadJson_eq_ok_iff.mpr ⟨_, parsed, declarationsOf?_declarationsJson keyed shallow 0⟩

/-- Declarations that are written as JSON load as they were, whether the text is compact
or pretty. -/
theorem loadJson_restores_declarations {declarations : List KeyDeclaration}
    (keyed : ∀ declaration ∈ declarations, KeyedByName declaration.target.properties)
    (shallow : (declarationsJson declarations).depth ≤ jsonLevels) :
    loadJson (declarationsJson declarations).compact = .ok declarations ∧
      loadJson (declarationsJson declarations).pretty = .ok declarations := by
  have exact := noDecimal_declarationsJson declarations
  constructor
  · exact loadJson_of_parse? (Json.parse?_compact exact) keyed shallow
  · exact loadJson_of_parse? (Json.parse?_pretty exact) keyed shallow

def shipmentTarget : TargetType :=
  ((((TargetType.ofName "Sendung \"é\"\n😀").withShape .structType).withProperty
    ⟨"Route\\n", .collection "List" (.collection "Set" (.value "Ort" .parseOnly)), none,
      none⟩).withProperty
    ⟨"Stufe", .enumeration "Stufe" ⟨[⟨"Tief", Int64.minValue⟩, ⟨"Hoch", Int64.maxValue⟩]⟩,
      some .internalMember, some ⟨.privateMember, true⟩⟩).withConstructor ⟨["stufe", "\x01"]⟩

def shipmentKeys : List KeyDeclaration :=
  [⟨shipmentTarget, ⟨"{Stufe}→{Id:N}", some '→', false⟩⟩, ⟨.ofName "", .ofTemplate ""⟩]

theorem shipment_keys_survive_interchange :
    loadJson (declarationsJson shipmentKeys).compact = .ok shipmentKeys ∧
      loadJson (declarationsJson shipmentKeys).pretty = .ok shipmentKeys := by
  have keyed : KeyedByName shipmentTarget.properties := (KeyedByName.empty.insert _).insert _
  apply loadJson_restores_declarations
  · rw [shipmentKeys, List.forall_mem_cons, List.forall_mem_singleton]
    exact ⟨keyed, KeyedByName.empty⟩
  · decide +kernel

end CompositeKey
