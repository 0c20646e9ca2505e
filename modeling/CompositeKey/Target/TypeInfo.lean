import CompositeKey.Target.EnumShape

/-!
# Declared types
-/

set_option autoImplicit false

namespace CompositeKey

structure Capabilities where
  spanParsable : Bool
  parsable : Bool
  spanFormattable : Bool
  formattable : Bool
deriving DecidableEq

namespace Capabilities

def none : Capabilities := ⟨false, false, false, false⟩

def primitive : Capabilities := ⟨true, true, true, true⟩

def parseOnly : Capabilities := ⟨false, true, false, false⟩

end Capabilities

inductive TypeInfo where
  | guid (name : String)
  | string (name : String)
  | enumeration (name : String) (shape : EnumShape)
  | collection (name : String) (element : TypeInfo)
  | value (name : String) (capabilities : Capabilities)
deriving DecidableEq

namespace TypeInfo

def name : TypeInfo → String
  | .guid name => name
  | .string name => name
  | .enumeration name _ => name
  | .collection name _ => name
  | .value name _ => name

def element? : TypeInfo → Option TypeInfo
  | .collection _ element => some element
  | _ => none

def isCollection : TypeInfo → Bool
  | .collection _ _ => true
  | _ => false

def plainGuid : TypeInfo := .guid "Guid"

def plainString : TypeInfo := .string "string"

end TypeInfo

end CompositeKey
