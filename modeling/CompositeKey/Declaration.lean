import CompositeKey.Target.Basic

/-!
# Key declarations

A key declaration is a target type with the template of its key.
-/

set_option autoImplicit false

namespace CompositeKey

structure KeyConfig where
  template : String
  primarySeparator : Option Char
  invariantFormatting : Bool
deriving DecidableEq

namespace KeyConfig

def ofTemplate (template : String) : KeyConfig := ⟨template, none, true⟩

def withPrimarySeparator (config : KeyConfig) (separator : Char) : KeyConfig :=
  { config with primarySeparator := some separator }

def withInvariantFormatting (config : KeyConfig) (invariant : Bool) : KeyConfig :=
  { config with invariantFormatting := invariant }

end KeyConfig

structure KeyDeclaration where
  target : TargetType
  config : KeyConfig
deriving DecidableEq

end CompositeKey
