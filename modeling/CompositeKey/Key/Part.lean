import CompositeKey.Declaration
import CompositeKey.Key.Classification
import CompositeKey.Template.Token

/-!
# Parts of a key

Each token of a template becomes one part.  A token that names a property is
resolved against the target type and classified; it may fail.
-/

set_option autoImplicit false

namespace CompositeKey

structure DelimiterPart where
  value : Char
  range : TextRange
deriving DecidableEq

structure PropertyPart where
  property : PropertyInfo
  format : Option String
  parseStrategy : ParseStrategy
  formatStrategy : FormatStrategy
  length : Nat
  isExact : Bool
  range : TextRange
deriving DecidableEq

structure RepeatingPart where
  property : PropertyInfo
  separator : Char
  format : Option String
  parseStrategy : ParseStrategy
  formatStrategy : FormatStrategy
  elementType : TypeInfo
  length : Nat
  range : TextRange
deriving DecidableEq

inductive KeyPart where
  | constant (text : String) (range : TextRange)
  | delimiter (part : DelimiterPart)
  | primaryDelimiter (part : DelimiterPart)
  | property (part : PropertyPart)
  | repeating (part : RepeatingPart)
deriving DecidableEq

namespace KeyPart

/-- The exact length of an exact part, the least length of any other. -/
def length : KeyPart → Nat
  | .constant text _ => text.length
  | .delimiter _ => 1
  | .primaryDelimiter _ => 1
  | .property part => part.length
  | .repeating part => part.length

def isExact : KeyPart → Bool
  | .constant _ _ => true
  | .delimiter _ => true
  | .primaryDelimiter _ => true
  | .property part => part.isExact
  | .repeating _ => false

def range : KeyPart → TextRange
  | .constant _ range => range
  | .delimiter part => part.range
  | .primaryDelimiter part => part.range
  | .property part => part.range
  | .repeating part => part.range

def property? : KeyPart → Option PropertyInfo
  | .property part => some part.property
  | .repeating part => some part.property
  | _ => none

def isPrimaryDelimiter : KeyPart → Bool
  | .primaryDelimiter _ => true
  | _ => false

def isRepeating : KeyPart → Bool
  | .repeating _ => true
  | _ => false

end KeyPart

inductive PartError where
  | unresolvedProperty (name : String) (range : TextRange)
  | invalidFormat (name typeName format : String) (range : TextRange)
  | nonCollectionRepeating (name typeName : String) (range : TextRange)
  | collectionMissingMarker (name typeName : String) (range : TextRange)
  | unsupportedType (name typeName : String) (range : TextRange)
deriving DecidableEq

namespace PartError

def name : PartError → String
  | .unresolvedProperty name _ => name
  | .invalidFormat name _ _ _ => name
  | .nonCollectionRepeating name _ _ => name
  | .collectionMissingMarker name _ _ => name
  | .unsupportedType name _ _ => name

def range : PartError → TextRange
  | .unresolvedProperty _ range => range
  | .invalidFormat _ _ _ range => range
  | .nonCollectionRepeating _ _ range => range
  | .collectionMissingMarker _ _ range => range
  | .unsupportedType _ _ range => range

def message : PartError → String
  | .unresolvedProperty name _ => s!"'{name}' is not a property of the target type"
  | .invalidFormat name typeName format _ =>
      s!"format '{format}' is not valid for property '{name}' of type '{typeName}'"
  | .nonCollectionRepeating name typeName _ =>
      s!"property '{name}' of type '{typeName}' is not a collection and cannot repeat"
  | .collectionMissingMarker name typeName _ =>
      s!"collection property '{name}' of type '{typeName}' needs a repeating marker"
  | .unsupportedType name typeName _ =>
      s!"property '{name}' of type '{typeName}' cannot be parsed from a key"

/-- The error of a property whose value cannot be classified.  A format is to
blame only where there is one. -/
def ofClassifyError (property : PropertyInfo) (type : TypeInfo) (format : Option String)
    (range : TextRange) : ClassifyError → PartError
  | .invalidFormat =>
      match format with
      | some text => .invalidFormat property.name type.name text range
      | none => .unsupportedType property.name type.name range
  | _ => .unsupportedType property.name type.name range

end PartError

/-- The part of a property that does not repeat.  `name` is the name in the
template, `property` what the target type has under it. -/
def scalarPart (name : String) (property : PropertyInfo) (format : Option String)
    (range : TextRange) : Except PartError KeyPart :=
  match classify property.type format with
  | .ok found =>
      .ok (.property ⟨property, format, found.parse, found.format, found.length, found.isExact,
        range⟩)
  | .error .collection => .error (.collectionMissingMarker name property.type.name range)
  | .error failure => .error (PartError.ofClassifyError property property.type format range failure)

def repeatingPart (name : String) (property : PropertyInfo) (separator : Char)
    (format : Option String) (range : TextRange) : Except PartError KeyPart :=
  match property.type.element? with
  | none => .error (.nonCollectionRepeating name property.type.name range)
  | some element =>
      match classify element format with
      | .ok found =>
          .ok (.repeating ⟨property, separator, format, found.parse, found.format, element,
            found.length, range⟩)
      | .error failure => .error (PartError.ofClassifyError property element format range failure)

def buildPart (target : TargetType) (token : Token) : Except PartError KeyPart :=
  match token.value with
  | .constant text => .ok (.constant text token.range)
  | .delimiter c => .ok (.delimiter ⟨c, token.range⟩)
  | .primaryDelimiter c => .ok (.primaryDelimiter ⟨c, token.range⟩)
  | .property name format =>
      match target.property? name with
      | none => .error (.unresolvedProperty name token.range)
      | some property => scalarPart name property format token.range
  | .repeatingProperty name separator format =>
      match target.property? name with
      | none => .error (.unresolvedProperty name token.range)
      | some property => repeatingPart name property separator format token.range

structure KeyParts where
  parts : List KeyPart
  errors : List PartError
deriving DecidableEq

namespace KeyParts

def isComplete (built : KeyParts) : Bool := built.errors.isEmpty

end KeyParts

def buildParts (target : TargetType) : List Token → KeyParts
  | [] => ⟨[], []⟩
  | token :: rest =>
      let built := buildParts target rest
      match buildPart target token with
      | .ok part => { built with parts := part :: built.parts }
      | .error failure => { built with errors := failure :: built.errors }

end CompositeKey
