import CompositeKey.Target.TypeInfo

/-!
# Properties of a target type
-/

set_option autoImplicit false

namespace CompositeKey

/-- Who may call an accessor.  It is carried along and never decides anything:
generated members live in the same type. -/
inductive Visibility where
  | publicMember
  | internalMember
  | protectedMember
  | privateMember
deriving DecidableEq

structure Setter where
  visibility : Visibility
  initOnly : Bool
deriving DecidableEq

structure PropertyInfo where
  name : String
  type : TypeInfo
  getter : Option Visibility
  setter : Option Setter
deriving DecidableEq

namespace PropertyInfo

def ofType (name : String) (type : TypeInfo) : PropertyInfo :=
  ⟨name, type, some .publicMember, some ⟨.publicMember, false⟩⟩

def readOnly (property : PropertyInfo) : PropertyInfo := { property with setter := none }

def initOnly (property : PropertyInfo) : PropertyInfo :=
  { property with setter := some ⟨.publicMember, true⟩ }

def writeOnly (property : PropertyInfo) : PropertyInfo := { property with getter := none }

def isReadable (property : PropertyInfo) : Bool := property.getter.isSome

def isWritable (property : PropertyInfo) : Bool := property.setter.isSome

end PropertyInfo

end CompositeKey
