/-!
# Diagnostic codes

Codes are stable: `CK` with two digits for the category and two for the
condition.
-/

set_option autoImplicit false

namespace CompositeKey

inductive DiagnosticCode where
  | unsupportedTargetShape
  | targetNotPartial
  | ambiguousConstructor
  | tokenizationFailure
  | unusedPrimarySeparator
  | unresolvedProperty
  | inaccessibleProperty
  | invalidFormatForType
  | nonCollectionRepeatingProperty
  | collectionMissingRepeatingMarker
  | unsupportedPropertyType
  | misplacedRepeatingPart
deriving DecidableEq

inductive DiagnosticCategory where
  | targetType
  | template
  | property
  | keyStructure
deriving DecidableEq

def DiagnosticCategory.description : DiagnosticCategory → String
  | .targetType => "target type error"
  | .template => "template error"
  | .property => "property error"
  | .keyStructure => "key structure error"

namespace DiagnosticCode

def all : List DiagnosticCode :=
  [.unsupportedTargetShape, .targetNotPartial, .ambiguousConstructor, .tokenizationFailure,
    .unusedPrimarySeparator, .unresolvedProperty, .inaccessibleProperty, .invalidFormatForType,
    .nonCollectionRepeatingProperty, .collectionMissingRepeatingMarker, .unsupportedPropertyType,
    .misplacedRepeatingPart]

theorem mem_all (code : DiagnosticCode) : code ∈ all := by
  cases code <;> decide

def text : DiagnosticCode → String
  | .unsupportedTargetShape => "CK0101"
  | .targetNotPartial => "CK0102"
  | .ambiguousConstructor => "CK0103"
  | .tokenizationFailure => "CK0201"
  | .unusedPrimarySeparator => "CK0202"
  | .unresolvedProperty => "CK0301"
  | .inaccessibleProperty => "CK0302"
  | .invalidFormatForType => "CK0303"
  | .nonCollectionRepeatingProperty => "CK0304"
  | .collectionMissingRepeatingMarker => "CK0305"
  | .unsupportedPropertyType => "CK0306"
  | .misplacedRepeatingPart => "CK0401"

def ofText? (text : String) : Option DiagnosticCode := all.find? fun code => code.text == text

theorem ofText?_text (code : DiagnosticCode) : ofText? code.text = some code := by
  cases code <;> decide

def category : DiagnosticCode → DiagnosticCategory
  | .unsupportedTargetShape => .targetType
  | .targetNotPartial => .targetType
  | .ambiguousConstructor => .targetType
  | .tokenizationFailure => .template
  | .unusedPrimarySeparator => .template
  | .unresolvedProperty => .property
  | .inaccessibleProperty => .property
  | .invalidFormatForType => .property
  | .nonCollectionRepeatingProperty => .property
  | .collectionMissingRepeatingMarker => .property
  | .unsupportedPropertyType => .property
  | .misplacedRepeatingPart => .keyStructure

def defaultMessage : DiagnosticCode → String
  | .unsupportedTargetShape => "unsupported target type"
  | .targetNotPartial => "target type is not partial"
  | .ambiguousConstructor => "no unambiguous constructor"
  | .tokenizationFailure => "invalid key template"
  | .unusedPrimarySeparator => "primary separator not used"
  | .unresolvedProperty => "unknown property"
  | .inaccessibleProperty => "inaccessible property"
  | .invalidFormatForType => "invalid format"
  | .nonCollectionRepeatingProperty => "repeating property is not a collection"
  | .collectionMissingRepeatingMarker => "collection property must repeat"
  | .unsupportedPropertyType => "unsupported property type"
  | .misplacedRepeatingPart => "repeating property must be last"

end DiagnosticCode

end CompositeKey
