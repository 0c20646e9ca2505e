import CompositeKey.Template.Lexer
import CompositeKey.Template.Token

/-!
# The text of a property

`name`, `name:format`, `name...s` or `name...s:format`, where `s` is the
separator character of a repeating property.  A repeating marker counts only
before the first colon.
-/

set_option autoImplicit false

namespace CompositeKey

/-- Splits a text at its first repeating marker, which belongs to neither part. -/
def splitAtMarker : List Char → Option (List Char × List Char)
  | [] => none
  | '.' :: '.' :: '.' :: rest => some ([], rest)
  | c :: rest => (splitAtMarker rest).map fun parts => (c :: parts.1, parts.2)

def splitAtColon : List Char → List Char × Option (List Char)
  | [] => ([], none)
  | c :: rest =>
      if c = ':' then ([], some rest) else (c :: (splitAtColon rest).1, (splitAtColon rest).2)

namespace PropertyBody

def name (body : PropertyBody) (text : List Char) : Except TokenizeError String :=
  if text.isEmpty then .error (.emptyPropertyName body.range) else .ok (String.ofList text)

def format (body : PropertyBody) (name : String) :
    Option (List Char) → Except TokenizeError (Option String)
  | none => .ok none
  | some [] => .error (.emptyFormat name body.range)
  | some text => .ok (some (String.ofList text))

def scalarToken (body : PropertyBody) : Except TokenizeError TemplateToken := do
  let (nameText, formatText) := splitAtColon body.text
  let name ← body.name nameText
  let format ← body.format name formatText
  return .property name format

def repeatingToken (body : PropertyBody) (nameText after : List Char) :
    Except TokenizeError TemplateToken := do
  let name ← body.name nameText
  match after with
  | [] => throw (.missingRepeatingSeparator name body.range)
  | separator :: [] => return .repeatingProperty name separator none
  | separator :: ':' :: formatText =>
      let format ← body.format name (some formatText)
      return .repeatingProperty name separator format
  | separator :: trailing =>
      let start := body.offset + byteLength nameText + 3 + separator.utf8Size
      throw (.trailingRepeatingText name (TextRange.ofLength start (byteLength trailing)))

def token (body : PropertyBody) : Except TokenizeError TemplateToken :=
  match splitAtMarker body.text with
  | some (nameText, after) =>
      if nameText.contains ':' then body.scalarToken else body.repeatingToken nameText after
  | none => body.scalarToken

end PropertyBody

end CompositeKey
