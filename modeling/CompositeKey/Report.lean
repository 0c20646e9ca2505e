import CompositeKey.Compile
import CompositeKey.Declaration.Encoder
import CompositeKey.Document.Json.Printer

/-!
# Compile reports

A report tells a code generator what became of each declaration: its key
specification, or its diagnostics.  Fields that would be empty are left out.
-/

set_option autoImplicit false

namespace CompositeKey

def TextRange.toJson (range : TextRange) : Json :=
  .array [.integer range.start, .integer range.stop]

def Json.ofChar (c : Char) : Json := Json.ofString (String.singleton c)

def Json.ofFormat (format : Option String) : Json := Json.ofOption Json.ofString format

def EnumDispatch.toJson : EnumDispatch → Json
  | .sequential => Json.ofString "Sequential"
  | .search => Json.ofString "Search"

def GuidFormat.toJson (format : GuidFormat) : Json := Json.ofString format.letter

def ParseStrategy.toJson : ParseStrategy → Json
  | .guid format => Json.variant "Guid" format.toJson
  | .string => Json.ofString "String"
  | .enumeration dispatch => Json.variant "Enum" dispatch.toJson
  | .spanParsable => Json.ofString "SpanParsable"
  | .parsable => Json.ofString "Parsable"

def FormatStrategy.toJson : FormatStrategy → Json
  | .guid format => Json.variant "Guid" format.toJson
  | .string => Json.ofString "String"
  | .enumeration dispatch => Json.variant "Enum" dispatch.toJson
  | .spanFormattable => Json.ofString "SpanFormattable"
  | .formattable => Json.ofString "Formattable"
  | .display => Json.ofString "Display"

def DelimiterPart.toJson (part : DelimiterPart) : Json :=
  Json.record [("value", Json.ofChar part.value), ("range", part.range.toJson)]

def PropertyPart.toJson (part : PropertyPart) : Json :=
  Json.record [
    ("property", part.property.toJson),
    ("format", Json.ofFormat part.format),
    ("parse_strategy", part.parseStrategy.toJson),
    ("format_strategy", part.formatStrategy.toJson),
    ("length_required", .integer part.length),
    ("exact_length_requirement", .bool part.isExact),
    ("range", part.range.toJson)]

def RepeatingPart.toJson (part : RepeatingPart) : Json :=
  Json.record [
    ("property", part.property.toJson),
    ("separator", Json.ofChar part.separator),
    ("format", Json.ofFormat part.format),
    ("inner_parse_strategy", part.parseStrategy.toJson),
    ("inner_format_strategy", part.formatStrategy.toJson),
    ("inner_type", part.elementType.toJson),
    ("length_required", .integer part.length),
    ("range", part.range.toJson)]

def KeyPart.toJson : KeyPart → Json
  | .constant text range =>
      Json.variant "Constant"
        (Json.record [("value", Json.ofString text), ("range", range.toJson)])
  | .delimiter part => Json.variant "Delimiter" part.toJson
  | .primaryDelimiter part => Json.variant "PrimaryDelimiter" part.toJson
  | .property part => Json.variant "Property" part.toJson
  | .repeating part => Json.variant "RepeatingProperty" part.toJson

def PrimarySpec.toJson (spec : PrimarySpec) : Json :=
  Json.record [
    ("parts", .array (spec.parts.map KeyPart.toJson)),
    ("invariant_formatting", .bool spec.invariantFormatting)]

def CompositeSpec.toJson (spec : CompositeSpec) : Json :=
  Json.record [
    ("partition_parts", .array (spec.partition.map KeyPart.toJson)),
    ("primary_delimiter_part", (KeyPart.primaryDelimiter spec.delimiter).toJson),
    ("sort_parts", .array (spec.sort.map KeyPart.toJson)),
    ("invariant_formatting", .bool spec.invariantFormatting)]

def KeySpec.toJson : KeySpec → Json
  | .primary spec => Json.variant "Primary" spec.toJson
  | .composite spec => Json.variant "Composite" spec.toJson

def DiagnosticCode.toJson (code : DiagnosticCode) : Json := Json.ofString code.text

def DiagnosticCode.ofJson? : Json → Option DiagnosticCode
  | .string (some text) => ofText? text
  | _ => none

def Diagnostic.toJson (diagnostic : Diagnostic) : Json :=
  Json.record [
    ("code", diagnostic.code.toJson),
    ("message", Json.ofString diagnostic.message),
    ("range", Json.ofOption TextRange.toJson diagnostic.range),
    ("subject", Json.ofOption Json.ofString diagnostic.subject),
    ("hint", Json.ofOption Json.ofString diagnostic.hint)]

structure CompileReport where
  target : String
  spec : Option KeySpec
  diagnostics : List Diagnostic
deriving DecidableEq

namespace CompileReport

def ofResult (target : String) : Except Diagnostics KeySpec → CompileReport
  | .ok spec => ⟨target, some spec, []⟩
  | .error diagnostics => ⟨target, none, diagnostics.toList⟩

/-- A specification that is missing is left out, and so is an empty list of
diagnostics. -/
def fields (report : CompileReport) : List (String × Json) :=
  ("target", Json.ofString report.target) ::
    ((report.spec.map fun spec => ("spec", spec.toJson)).toList ++
      if report.diagnostics.isEmpty then []
      else [("diagnostics", .array (report.diagnostics.map Diagnostic.toJson))])

def toJson (report : CompileReport) : Json := Json.record report.fields

/-- Declarations with their results, as long as there are both. -/
def zip (declarations : List KeyDeclaration) (results : List (Except Diagnostics KeySpec)) :
    List CompileReport :=
  List.zipWith (fun declaration => ofResult declaration.target.name) declarations results

end CompileReport

def reportsJson (declarations : List KeyDeclaration)
    (results : List (Except Diagnostics KeySpec)) : Json :=
  .array ((CompileReport.zip declarations results).map CompileReport.toJson)

def reportsText (declarations : List KeyDeclaration)
    (results : List (Except Diagnostics KeySpec)) : String :=
  (reportsJson declarations results).pretty

end CompositeKey
