import CompositeKey.Key.Part
import CompositeKey.Proofs.Key.Classification

/-!
# Single values and elements of collections

A property is built by a token without a marker when it has one value, and by a token
with one when it is a collection.  A value and an element of the same type are built alike;
of the two tokens the wrong one always fails.
-/

set_option autoImplicit false

namespace CompositeKey

/-- What a token without a marker and one with a marker come to for values of one type:
parts that are read and written alike, or the same failure. -/
inductive BuiltAlike (name : String) (type : TypeInfo) (format : Option String)
    (range : TextRange) : Except PartError KeyPart → Except PartError KeyPart → Prop where
  | parts {single : PropertyPart} {repeating : RepeatingPart}
      (parse : single.parseStrategy = repeating.parseStrategy)
      (write : single.formatStrategy = repeating.formatStrategy)
      (length : (KeyPart.property single).length = (KeyPart.repeating repeating).length)
      (exact : (KeyPart.property single).isExact = true ↔ ∃ typeName, type = .guid typeName)
      (varying : (KeyPart.repeating repeating).isExact = false) :
      BuiltAlike name type format range (.ok (.property single)) (.ok (.repeating repeating))
  | invalidFormat {text : String} (given : format = some text)
      (cause : classify type format = .error .invalidFormat) :
      BuiltAlike name type format range (.error (.invalidFormat name type.name text range))
        (.error (.invalidFormat name type.name text range))
  | unsupported (cause : classify type format = .error .unsupported) :
      BuiltAlike name type format range (.error (.unsupportedType name type.name range))
        (.error (.unsupportedType name type.name range))

section Tokens

variable {target : TargetType} {name : String} {property : PropertyInfo}

theorem buildPart_property_of_collection (declared : target.property? name = some property)
    (collected : property.type.isCollection = true) (format : Option String)
    (range : TextRange) :
    buildPart target ⟨.property name format, range⟩ =
      .error (.collectionMissingMarker name property.type.name range) := by
  simp only [buildPart, declared, scalarPart, classify_eq_collection_iff.mpr collected]

theorem buildPart_repeating_of_single (declared : target.property? name = some property)
    (single : property.type.isCollection = false) (separator : Char) (format : Option String)
    (range : TextRange) :
    buildPart target ⟨.repeatingProperty name separator format, range⟩ =
      .error (.nonCollectionRepeating name property.type.name range) := by
  have none : property.type.element? = none := by
    cases type : property.type with
    | collection listName element => simp [type, TypeInfo.isCollection] at single
    | _ => rfl
  simp only [buildPart, declared, repeatingPart, none]

end Tokens

section Alike

variable {name listName : String} {property : PropertyInfo} {type : TypeInfo}
  {scalarTarget repeatingTarget : TargetType}

theorem builtAlike_of_single (named : property.name = name) (single : type.isCollection = false)
    (scalar : scalarTarget.property? name = some { property with type := type })
    (repeating : repeatingTarget.property? name =
      some { property with type := .collection listName type })
    (separator : Char) (format : Option String) (range : TextRange) :
    BuiltAlike name type format range (buildPart scalarTarget ⟨.property name format, range⟩)
      (buildPart repeatingTarget ⟨.repeatingProperty name separator format, range⟩) := by
  subst named
  simp only [buildPart, scalar, repeating, scalarPart, repeatingPart, TypeInfo.element?]
  cases classified : classify type format with
  | ok found => exact .parts rfl rfl rfl (isExact_iff_of_classify classified) rfl
  | error failure =>
      cases refused_of_classify classified with
      | invalidFormat text other => exact .invalidFormat rfl classified
      | unsupported typeName capabilities format => exact .unsupported classified
      | collection typeName element format => cases single

theorem buildPart_repeating_of_nested (named : property.name = name)
    (nested : type.isCollection = true)
    (repeating : repeatingTarget.property? name =
      some { property with type := .collection listName type })
    (separator : Char) (format : Option String) (range : TextRange) :
    buildPart repeatingTarget ⟨.repeatingProperty name separator format, range⟩ =
      .error (.unsupportedType name type.name range) := by
  subst named
  simp only [buildPart, repeating, repeatingPart, TypeInfo.element?,
    classify_eq_collection_iff.mpr nested]
  rfl

/-- A property of some type and a collection of that type are built alike by their own
tokens, unless the type is a collection itself; the other token of each fails. -/
theorem scalar_and_repeating_alike (named : property.name = name)
    (scalar : scalarTarget.property? name = some { property with type := type })
    (repeating : repeatingTarget.property? name =
      some { property with type := .collection listName type })
    (separator : Char) (format : Option String) (range : TextRange) :
    (type.isCollection = false →
      BuiltAlike name type format range (buildPart scalarTarget ⟨.property name format, range⟩)
        (buildPart repeatingTarget ⟨.repeatingProperty name separator format, range⟩) ∧
      buildPart scalarTarget ⟨.repeatingProperty name separator format, range⟩ =
        .error (.nonCollectionRepeating name type.name range)) ∧
    (type.isCollection = true →
      buildPart scalarTarget ⟨.property name format, range⟩ =
        .error (.collectionMissingMarker name type.name range) ∧
      buildPart repeatingTarget ⟨.repeatingProperty name separator format, range⟩ =
        .error (.unsupportedType name type.name range)) ∧
    buildPart repeatingTarget ⟨.property name format, range⟩ =
      .error (.collectionMissingMarker name listName range) := by
  refine ⟨?_, ?_, buildPart_property_of_collection repeating rfl format range⟩
  · intro single
    exact ⟨builtAlike_of_single named single scalar repeating separator format range,
      buildPart_repeating_of_single scalar single separator format range⟩
  · intro nested
    exact ⟨buildPart_property_of_collection scalar nested format range,
      buildPart_repeating_of_nested named nested repeating separator format range⟩

end Alike

def labelTarget (type : TypeInfo) : TargetType :=
  (TargetType.ofName "Key").withProperty (.ofType "Label" type)

theorem property?_labelTarget (type : TypeInfo) :
    (labelTarget type).property? "Label" =
      some { PropertyInfo.ofType "Label" .plainString with type := type } := rfl

/-- The part of one label, and the part of a list of labels. -/
def labelPart (type : TypeInfo) (format : Option String) : Except PartError KeyPart :=
  buildPart (labelTarget type) ⟨.property "Label" format, .empty 1⟩

def labelsPart (listName : String) (type : TypeInfo) (format : Option String) :
    Except PartError KeyPart :=
  buildPart (labelTarget (.collection listName type))
    ⟨.repeatingProperty "Label" '→' format, .empty 1⟩

theorem labels_and_lists_alike :
    BuiltAlike "Label" .plainGuid (some "N") (.empty 1) (labelPart .plainGuid (some "N"))
        (labelsPart "List" .plainGuid (some "N")) ∧
      (∃ part, labelPart .plainGuid (some "N") = .ok part ∧ part.isExact = true) ∧
      BuiltAlike "Label" (.value "Text" .parseOnly) (some "X") (.empty 1)
        (labelPart (.value "Text" .parseOnly) (some "X"))
        (labelsPart "List" (.value "Text" .parseOnly) (some "X")) ∧
      labelsPart "Table" (.collection "Row" .plainString) none =
        .error (.unsupportedType "Label" "Row" (.empty 1)) := by
  have named : (PropertyInfo.ofType "Label" .plainString).name = "Label" := rfl
  obtain ⟨guids, -, -⟩ := scalar_and_repeating_alike named (property?_labelTarget .plainGuid)
    (property?_labelTarget (.collection "List" .plainGuid)) '→' (some "N") (.empty 1)
  obtain ⟨texts, -, -⟩ := scalar_and_repeating_alike named
    (property?_labelTarget (.value "Text" .parseOnly))
    (property?_labelTarget (.collection "List" (.value "Text" .parseOnly)))
    '→' (some "X") (.empty 1)
  obtain ⟨-, nested, -⟩ := scalar_and_repeating_alike named
    (property?_labelTarget (.collection "Row" .plainString))
    (property?_labelTarget (.collection "Table" (.collection "Row" .plainString)))
    '→' none (.empty 1)
  exact ⟨(guids rfl).1, ⟨_, rfl, rfl⟩, (texts rfl).1, (nested rfl).2⟩

end CompositeKey
