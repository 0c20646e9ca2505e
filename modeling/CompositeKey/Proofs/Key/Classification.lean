import CompositeKey.Key.Classification
import CompositeKey.Proofs.Results

/-!
# What values are classified as

A classification has one of four forms, each for types of its own kind, and there are
three reasons for having none.  All that is said of `classify` elsewhere follows from
these forms and reasons.
-/

set_option autoImplicit false

namespace CompositeKey

inductive Parses (capabilities : Capabilities) : ParseStrategy → Prop where
  | span (able : capabilities.spanParsable = true) : Parses capabilities .spanParsable
  | text (unable : capabilities.spanParsable = false) (able : capabilities.parsable = true) :
      Parses capabilities .parsable

/-- A value is formatted into the key where it can be; one that cannot be formatted goes
without a format string. -/
inductive Formats (capabilities : Capabilities) (format : Option String) :
    FormatStrategy → Prop where
  | span (able : capabilities.spanFormattable = true) :
      Formats capabilities format .spanFormattable
  | text (unable : capabilities.spanFormattable = false)
      (able : capabilities.formattable = true) : Formats capabilities format .formattable
  | display (unable : capabilities.spanFormattable = false ∧ capabilities.formattable = false)
      (without : format = none) : Formats capabilities format .display

def Capabilities.parseStrategy (capabilities : Capabilities) :
    Except ClassifyError ParseStrategy :=
  if capabilities.spanParsable then .ok .spanParsable
  else if capabilities.parsable then .ok .parsable
  else .error .unsupported

def Capabilities.formatStrategy (capabilities : Capabilities) (format : Option String) :
    Except ClassifyError FormatStrategy :=
  if capabilities.spanFormattable then .ok .spanFormattable
  else if capabilities.formattable then .ok .formattable
  else if format.isSome then .error .invalidFormat
  else .ok .display

theorem classifyValue_eq_bind (capabilities : Capabilities) (format : Option String) :
    classifyValue capabilities format =
      capabilities.parseStrategy >>= fun parse =>
        capabilities.formatStrategy format >>= fun write => .ok ⟨parse, write, 1, false⟩ := by
  obtain ⟨spanParsable, parsable, spanFormattable, formattable⟩ := capabilities
  -- Both sides depend on four flags and on whether there is a format.
  cases format <;> cases spanParsable <;> cases parsable <;> cases spanFormattable <;>
    cases formattable <;> rfl

theorem parseStrategy_eq_ok_iff {capabilities : Capabilities} {parse : ParseStrategy} :
    capabilities.parseStrategy = .ok parse ↔ Parses capabilities parse := by
  constructor
  · intro found
    unfold Capabilities.parseStrategy at found
    split at found
    · rename_i able
      cases found
      exact .span able
    · rename_i unable
      split at found
      · rename_i able
        cases found
        exact .text (Bool.eq_false_iff.mpr unable) able
      · cases found
  · intro parses
    cases parses with
    | span able => simp [Capabilities.parseStrategy, able]
    | text unable able => simp [Capabilities.parseStrategy, unable, able]

theorem formatStrategy_eq_ok_iff {capabilities : Capabilities} {format : Option String}
    {write : FormatStrategy} :
    capabilities.formatStrategy format = .ok write ↔ Formats capabilities format write := by
  constructor
  · intro found
    unfold Capabilities.formatStrategy at found
    split at found
    · rename_i able
      cases found
      exact .span able
    · rename_i unable
      split at found
      · rename_i able
        cases found
        exact .text (Bool.eq_false_iff.mpr unable) able
      · rename_i unformatted
        split at found
        · cases found
        · rename_i without
          cases found
          exact .display ⟨Bool.eq_false_iff.mpr unable, Bool.eq_false_iff.mpr unformatted⟩
            (by simpa using without)
  · intro formats
    cases formats with
    | span able => simp [Capabilities.formatStrategy, able]
    | text unable able => simp [Capabilities.formatStrategy, unable, able]
    | display unable without => simp [Capabilities.formatStrategy, unable, without]

inductive Classified : TypeInfo → Option String → Classification → Prop where
  | guid (name : String) {format : Option String} {form : GuidFormat}
      (selected : GuidFormat.ofSpecifier? format = some form) :
      Classified (.guid name) format ⟨.guid form, .guid form, form.length, true⟩
  | string (name : String) : Classified (.string name) none ⟨.string, .string, 1, false⟩
  | enumeration (name : String) (shape : EnumShape) :
      Classified (.enumeration name shape) none
        ⟨.enumeration shape.dispatch, .enumeration shape.dispatch,
          max (shape.shortestName?.getD 1) 1, false⟩
  | value (name : String) {capabilities : Capabilities} {format : Option String}
      {parse : ParseStrategy} {write : FormatStrategy} (parses : Parses capabilities parse)
      (formats : Formats capabilities format write) :
      Classified (.value name capabilities) format ⟨parse, write, 1, false⟩

theorem classify_eq_ok_iff {type : TypeInfo} {format : Option String} {found : Classification} :
    classify type format = .ok found ↔ Classified type format found := by
  constructor
  · intro classified
    cases type with
    | guid name =>
        simp only [classify] at classified
        split at classified
        · cases classified
        · rename_i form selected
          cases classified
          exact .guid name selected
    | string name =>
        cases format with
        | none =>
            cases classified
            exact .string name
        | some text => cases classified
    | enumeration name shape =>
        cases format with
        | none =>
            cases classified
            exact .enumeration name shape
        | some text => cases classified
    | collection name element => cases classified
    | value name capabilities =>
        simp only [classify, classifyValue_eq_bind, bind_eq_ok_iff, parseStrategy_eq_ok_iff,
          formatStrategy_eq_ok_iff] at classified
        obtain ⟨parse, parses, write, formats, same⟩ := classified
        cases same
        exact .value name parses formats
  · intro classified
    cases classified with
    | guid name selected => simp only [classify, selected]
    | string name => rfl
    | enumeration name shape => rfl
    | value name parses formats =>
        simp only [classify, classifyValue_eq_bind, bind_eq_ok_iff, parseStrategy_eq_ok_iff,
          formatStrategy_eq_ok_iff]
        exact ⟨_, parses, _, formats, rfl⟩

theorem isExact_iff_of_classify {type : TypeInfo} {format : Option String}
    {found : Classification} (classified : classify type format = .ok found) :
    found.isExact = true ↔ ∃ name, type = .guid name := by
  cases classify_eq_ok_iff.mp classified <;> simp

/-- Why types of each kind are refused; a format is to blame only where there is one. -/
inductive Refused : TypeInfo → Option String → ClassifyError → Prop where
  | invalidFormat {type : TypeInfo} (text : String) (single : type.isCollection = false) :
      Refused type (some text) .invalidFormat
  | unsupported (name : String) (capabilities : Capabilities) (format : Option String) :
      Refused (.value name capabilities) format .unsupported
  | collection (name : String) (element : TypeInfo) (format : Option String) :
      Refused (.collection name element) format .collection

theorem parseStrategy_error {capabilities : Capabilities} {failure : ClassifyError}
    (failed : capabilities.parseStrategy = .error failure) : failure = .unsupported := by
  unfold Capabilities.parseStrategy at failed
  split at failed
  · cases failed
  · split at failed <;> cases failed
    rfl

theorem formatStrategy_error {capabilities : Capabilities} {format : Option String}
    {failure : ClassifyError} (failed : capabilities.formatStrategy format = .error failure) :
    failure = .invalidFormat ∧ ∃ text, format = some text := by
  unfold Capabilities.formatStrategy at failed
  split at failed
  · cases failed
  · split at failed
    · cases failed
    · split at failed
      · rename_i present
        cases failed
        exact ⟨rfl, Option.isSome_iff_exists.mp present⟩
      · cases failed

theorem refused_of_classify {type : TypeInfo} {format : Option String} {failure : ClassifyError}
    (failed : classify type format = .error failure) : Refused type format failure := by
  cases type with
  | guid name =>
      simp only [classify] at failed
      split at failed
      · rename_i unknown
        cases failed
        cases format with
        | none => cases unknown
        | some text => exact .invalidFormat text rfl
      · cases failed
  | string name =>
      cases format with
      | none => cases failed
      | some text =>
          cases failed
          exact .invalidFormat text rfl
  | enumeration name shape =>
      cases format with
      | none => cases failed
      | some text =>
          cases failed
          exact .invalidFormat text rfl
  | collection name element =>
      cases failed
      exact .collection name element format
  | value name capabilities =>
      simp only [classify, classifyValue_eq_bind, bind_eq_error_iff] at failed
      rcases failed with unparsed | ⟨parse, _, unformatted | ⟨write, _, none⟩⟩
      · rw [parseStrategy_error unparsed]
        exact .unsupported name capabilities format
      · obtain ⟨rfl, text, rfl⟩ := formatStrategy_error unformatted
        exact .invalidFormat text rfl
      · cases none

theorem classify_eq_collection_iff {type : TypeInfo} {format : Option String} :
    classify type format = .error .collection ↔ type.isCollection = true := by
  constructor
  · intro failed
    cases refused_of_classify failed
    rfl
  · intro collected
    cases type with
    | collection name element => rfl
    | _ => cases collected

end CompositeKey
