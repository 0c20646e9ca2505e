import CompositeKey.Diagnostic.Code
import CompositeKey.Key.Spec
import CompositeKey.Template.TokenizeError

/-!
# Diagnostics

One function for each condition makes its diagnostic; no diagnostic of the
library is worded anywhere else.
-/

set_option autoImplicit false

namespace CompositeKey

structure Diagnostic where
  code : DiagnosticCode
  message : String
  range : Option TextRange
  subject : Option String
  hint : Option String
deriving DecidableEq

inductive Access where
  | read
  | write
deriving DecidableEq

namespace Diagnostic

def ofCode (code : DiagnosticCode) : Diagnostic := ⟨code, code.defaultMessage, none, none, none⟩

def summary (diagnostic : Diagnostic) : String :=
  diagnostic.code.text ++ ": " ++ diagnostic.message

def formatted (diagnostic : Diagnostic) : String :=
  match diagnostic.hint with
  | none => diagnostic.summary
  | some hint => diagnostic.summary ++ "\n  hint: " ++ hint

def article (word : String) : String :=
  match word.toList with
  | c :: _ => if c ∈ ['a', 'e', 'i', 'o', 'u'] then "an" else "a"
  | [] => "a"

def unsupportedTargetShape (target : TargetType) : Diagnostic :=
  let shape := target.shape.keyword
  let kind := article shape ++ " " ++ shape
  { code := .unsupportedTargetShape
    message :=
      s!"'{target.name}' is {kind}; keys can only be declared on classes, records and structs"
    range := none
    subject := some target.name
    hint := none }

def targetNotPartial (target : TargetType) : Diagnostic :=
  { code := .targetNotPartial
    message := s!"'{target.name}' must be declared partial"
    range := none
    subject := some target.name
    hint := some "add the 'partial' modifier to the declaration" }

def noMatchingConstructor (target : TargetType) : Diagnostic :=
  { code := .ambiguousConstructor
    message := s!"no constructor of '{target.name}' can be called with the template properties"
    range := none
    subject := some target.name
    hint := some "add a constructor whose parameters are all template properties" }

def ambiguousConstructor (target : TargetType) (candidates : Nat) : Diagnostic :=
  { code := .ambiguousConstructor
    message :=
      s!"{candidates} constructors of '{target.name}' match the template properties equally well"
    range := none
    subject := some target.name
    hint := none }

def constructorError (target : TargetType) : ConstructorError → Diagnostic
  | .noMatch => noMatchingConstructor target
  | .ambiguous candidates => ambiguousConstructor target candidates

def tokenizationFailure (failure : TokenizeError) : Diagnostic :=
  { code := .tokenizationFailure
    message := s!"invalid key template: {failure.message}"
    range := failure.range?
    subject := none
    hint := none }

def unusedPrimarySeparator (separator : Char) : Diagnostic :=
  { code := .unusedPrimarySeparator
    message := s!"primary separator '{separator}' does not appear in the template"
    range := none
    subject := none
    hint := some "use the separator between partition and sort key, or remove it" }

def partErrorCode : PartError → DiagnosticCode
  | .unresolvedProperty _ _ => .unresolvedProperty
  | .invalidFormat _ _ _ _ => .invalidFormatForType
  | .nonCollectionRepeating _ _ _ => .nonCollectionRepeatingProperty
  | .collectionMissingMarker _ _ _ => .collectionMissingRepeatingMarker
  | .unsupportedType _ _ _ => .unsupportedPropertyType

def partErrorHint : PartError → Option String
  | .collectionMissingMarker name _ _ => some s!"write '\x7b{name}...,\x7d' with a separator"
  | _ => none

def partError (failure : PartError) : Diagnostic :=
  { code := partErrorCode failure
    message := failure.message
    range := some failure.range
    subject := some failure.name
    hint := partErrorHint failure }

def inaccessibleProperty (name : String) (range : TextRange) (access : Access) : Diagnostic :=
  { code := .inaccessibleProperty
    message :=
      match access with
      | .read => s!"property '{name}' has no getter, so the key cannot be formatted"
      | .write =>
          s!"property '{name}' has no setter or constructor parameter, so the key cannot be parsed"
    range := some range
    subject := some name
    hint := none }

inductive Section where
  | key
  | partitionKey
  | sortKey
deriving DecidableEq

def Section.label : Section → String
  | .key => "key"
  | .partitionKey => "partition key"
  | .sortKey => "sort key"

def misplacedRepeatingPart (name : String) (range : TextRange) (label : String) : Diagnostic :=
  { code := .misplacedRepeatingPart
    message := s!"repeating property '{name}' must be the last part of the {label}"
    range := some range
    subject := some name
    hint := none }

def assembleError : AssembleError → Diagnostic
  | .unusedPrimarySeparator separator => unusedPrimarySeparator separator
  | .multiplePrimaryDelimiters count =>
      { code := .tokenizationFailure
        message := AssembleError.message (.multiplePrimaryDelimiters count)
        range := none
        subject := none
        hint := none }

end Diagnostic

/-- What is wrong with one declaration: at least one diagnostic. -/
structure Diagnostics where
  toList : List Diagnostic
  ne_nil : toList ≠ []
deriving DecidableEq

namespace Diagnostics

def single (diagnostic : Diagnostic) : Diagnostics := ⟨[diagnostic], by simp⟩

def ofList? (diagnostics : List Diagnostic) : Option Diagnostics :=
  if found : diagnostics = [] then none else some ⟨diagnostics, found⟩

theorem ofList?_eq_none_iff {diagnostics : List Diagnostic} :
    ofList? diagnostics = none ↔ diagnostics = [] := by
  by_cases found : diagnostics = [] <;> simp [ofList?, found]

theorem toList_of_ofList? {list : List Diagnostic} {diagnostics : Diagnostics}
    (found : ofList? list = some diagnostics) : diagnostics.toList = list := by
  unfold ofList? at found
  split at found
  · contradiction
  · cases found
    rfl

def ofTokenizeError (failure : TokenizeError) : Diagnostics :=
  single (.tokenizationFailure failure)

def ofAssembleError (failure : AssembleError) : Diagnostics := single (.assembleError failure)

def size (diagnostics : Diagnostics) : Nat := diagnostics.toList.length

def codes (diagnostics : Diagnostics) : List DiagnosticCode :=
  diagnostics.toList.map Diagnostic.code

def contains (diagnostics : Diagnostics) (code : DiagnosticCode) : Bool :=
  diagnostics.codes.contains code

def summary (diagnostics : Diagnostics) : String :=
  String.intercalate "; " (diagnostics.toList.map Diagnostic.summary)

end Diagnostics

end CompositeKey
