import CompositeKey.Key.GuidFormat
import CompositeKey.Target.TypeInfo

/-!
# How a value is read from a key and written to it

`classify` decides it from the type of the value and its format string, along
with the number of characters the value needs.
-/

set_option autoImplicit false

namespace CompositeKey

inductive ParseStrategy where
  | guid (format : GuidFormat)
  | string
  | enumeration (dispatch : EnumDispatch)
  | spanParsable
  | parsable
deriving DecidableEq

inductive FormatStrategy where
  | guid (format : GuidFormat)
  | string
  | enumeration (dispatch : EnumDispatch)
  | spanFormattable
  | formattable
  | display
deriving DecidableEq

structure Classification where
  parse : ParseStrategy
  format : FormatStrategy
  /-- The exact length when `isExact` holds, the least length otherwise. -/
  length : Nat
  isExact : Bool
deriving DecidableEq

inductive ClassifyError where
  | invalidFormat
  | unsupported
  | collection
deriving DecidableEq

/-- A value type parses from a span when it can, and formats into the key when
it can.  Only a type that formats takes a format string. -/
def classifyValue (capabilities : Capabilities) (format : Option String) :
    Except ClassifyError Classification := do
  let parse ←
    if capabilities.spanParsable then .ok .spanParsable
    else if capabilities.parsable then .ok .parsable
    else .error .unsupported
  let formatStrategy ←
    if capabilities.spanFormattable then .ok .spanFormattable
    else if capabilities.formattable then .ok .formattable
    else if format.isSome then .error .invalidFormat
    else .ok .display
  return ⟨parse, formatStrategy, 1, false⟩

def classify (type : TypeInfo) (format : Option String) : Except ClassifyError Classification :=
  match type with
  | .guid _ =>
      match GuidFormat.ofSpecifier? format with
      | none => .error .invalidFormat
      | some form => .ok ⟨.guid form, .guid form, form.length, true⟩
  | .string _ =>
      if format.isSome then .error .invalidFormat else .ok ⟨.string, .string, 1, false⟩
  | .enumeration _ shape =>
      if format.isSome then .error .invalidFormat
      else
        .ok ⟨.enumeration shape.dispatch, .enumeration shape.dispatch,
          max (shape.shortestName?.getD 1) 1, false⟩
  | .value _ capabilities => classifyValue capabilities format
  | .collection _ _ => .error .collection

end CompositeKey
