import CompositeKey.OrderedMap
import CompositeKey.Target.Constructor
import CompositeKey.Target.Property

/-!
# The type a key template is declared on
-/

set_option autoImplicit false

namespace CompositeKey

inductive TypeShape where
  | classType
  | recordType
  | structType
  | interfaceType
  | enumType
deriving DecidableEq

namespace TypeShape

def isAugmentable : TypeShape → Bool
  | .classType => true
  | .recordType => true
  | .structType => true
  | .interfaceType => false
  | .enumType => false

def keyword : TypeShape → String
  | .classType => "class"
  | .recordType => "record"
  | .structType => "struct"
  | .interfaceType => "interface"
  | .enumType => "enum"

end TypeShape

structure TargetType where
  name : String
  shape : TypeShape
  isPartial : Bool
  properties : OrderedMap String PropertyInfo
  /-- When there are none, the type has the constructor without parameters. -/
  constructors : List Constructor
deriving DecidableEq

namespace TargetType

def ofName (name : String) : TargetType := ⟨name, .recordType, true, .empty, []⟩

def withShape (target : TargetType) (shape : TypeShape) : TargetType :=
  { target with shape := shape }

def withPartial (target : TargetType) (isPartial : Bool) : TargetType :=
  { target with isPartial := isPartial }

def withProperty (target : TargetType) (property : PropertyInfo) : TargetType :=
  { target with properties := target.properties.insert property.name property }

def withConstructor (target : TargetType) (constructor : Constructor) : TargetType :=
  { target with constructors := target.constructors ++ [constructor] }

def property? (target : TargetType) (name : String) : Option PropertyInfo :=
  target.properties.get? name

end TargetType

end CompositeKey
