import CompositeKey.Proofs.Key.Classification
import CompositeKey.Text.AsciiCase

/-!
# Classifications fit together

A value is read in the way in which it is written, with a length that its values have, and
a format string is either refused or used.  A type that learns to do more keeps all its
formats.
-/

set_option autoImplicit false

namespace CompositeKey

theorem letter_of_ofSpecifier? {text : String} {form : GuidFormat}
    (selected : GuidFormat.ofSpecifier? (some text) = some form) :
    sameIgnoringCase text form.letter = true := by
  -- Each format string has a form; a missing and any other one have none.
  unfold GuidFormat.ofSpecifier? at selected
  split at selected <;> rename_i given <;> cases selected <;> cases given <;> decide

theorem GuidFormat.length_pos (form : GuidFormat) : 1 ≤ form.length := by
  cases form <;> decide

theorem shortestName?_eq_none_iff {shape : EnumShape} :
    shape.shortestName? = none ↔ shape.members = [] := by
  rw [EnumShape.shortestName?, List.min?_eq_none_iff, List.map_eq_nil_iff]

theorem shortestName?_eq_some_iff {shape : EnumShape} {length : Nat} :
    shape.shortestName? = some length ↔
      (∃ member ∈ shape.members, member.name.length = length) ∧
        ∀ other ∈ shape.members, length ≤ other.name.length := by
  rw [EnumShape.shortestName?, List.min?_eq_some_iff, List.mem_map, List.forall_mem_map]

/-- The length of the shortest name, and at least one character. -/
structure IsNameLength (members : List EnumMember) (length : Nat) : Prop where
  empty : members = [] → length = 1
  shortest : members ≠ [] → ∃ member ∈ members, length = max member.name.length 1 ∧
    ∀ other ∈ members, member.name.length ≤ other.name.length
  fits : ∀ member ∈ members, member.name ≠ "" → length ≤ member.name.length

theorem isNameLength (shape : EnumShape) :
    IsNameLength shape.members (max (shape.shortestName?.getD 1) 1) := by
  cases shortest : shape.shortestName? with
  | none =>
      have empty := shortestName?_eq_none_iff.mp shortest
      refine ⟨fun _ => rfl, fun some => absurd empty some, ?_⟩
      simp [empty]
  | some length =>
      obtain ⟨⟨first, listed, same⟩, least⟩ := shortestName?_eq_some_iff.mp shortest
      refine ⟨?_, fun _ => ⟨first, listed, by simp [same], ?_⟩, ?_⟩
      · intro empty
        simp [empty] at listed
      · rw [same]
        exact least
      · intro member found named
        have nonempty : member.name.length ≠ 0 := by simpa using named
        have bound := least member found
        simp only [Option.getD_some]
        omega

inductive SameFamily : ParseStrategy → FormatStrategy → Prop where
  | guid (form : GuidFormat) : SameFamily (.guid form) (.guid form)
  | string : SameFamily .string .string
  | enumeration (dispatch : EnumDispatch) :
      SameFamily (.enumeration dispatch) (.enumeration dispatch)
  | value {parse : ParseStrategy} {write : FormatStrategy}
      (parses : parse ∈ [.spanParsable, .parsable])
      (formats : write ∈ [.spanFormattable, .formattable, .display]) : SameFamily parse write

/-- A value is written with its format string: in the form with that letter, or by handing
it on. -/
inductive UsesFormat (text : String) : FormatStrategy → Prop where
  | guid {form : GuidFormat} (letter : sameIgnoringCase text form.letter = true) :
      UsesFormat text (.guid form)
  | spanFormattable : UsesFormat text .spanFormattable
  | formattable : UsesFormat text .formattable

structure Classification.IsCoherent (type : TypeInfo) (format : Option String)
    (found : Classification) : Prop where
  exact : found.isExact = true ↔ ∃ name, type = .guid name
  family : SameFamily found.parse found.format
  formatted : ∀ text ∈ format, UsesFormat text found.format
  names : ∀ name shape, type = .enumeration name shape → IsNameLength shape.members found.length
  positive : 1 ≤ found.length

theorem sameFamily_of_parses {capabilities : Capabilities} {format : Option String}
    {parse : ParseStrategy} {write : FormatStrategy} (parses : Parses capabilities parse)
    (formats : Formats capabilities format write) : SameFamily parse write := by
  apply SameFamily.value
  · cases parses <;> simp
  · cases formats <;> simp

theorem isCoherent_of_classify {type : TypeInfo} {format : Option String}
    {found : Classification} (classified : classify type format = .ok found) :
    found.IsCoherent type format := by
  have exact := isExact_iff_of_classify classified
  cases classify_eq_ok_iff.mp classified with
  | guid name selected =>
      refine ⟨exact, .guid _, ?_, nofun, GuidFormat.length_pos _⟩
      rintro text rfl
      exact .guid (letter_of_ofSpecifier? selected)
  | string name => exact ⟨exact, .string, nofun, nofun, Nat.le_refl 1⟩
  | enumeration name shape =>
      refine ⟨exact, .enumeration _, nofun, ?_, Nat.le_max_right _ 1⟩
      rintro _ _ ⟨⟩
      exact isNameLength shape
  | value name parses formats =>
      refine ⟨exact, sameFamily_of_parses parses formats, ?_, nofun, Nat.le_refl 1⟩
      rintro text rfl
      cases formats with
      | span able => exact .spanFormattable
      | text unable able => exact .formattable
      | display unable without => cases without

/-- The first value type can do all that the second one can. -/
structure Capabilities.Extends (more fewer : Capabilities) : Prop where
  spanParsable : fewer.spanParsable = true → more.spanParsable = true
  parsable : fewer.parsable = true → more.parsable = true
  spanFormattable : fewer.spanFormattable = true → more.spanFormattable = true
  formattable : fewer.formattable = true → more.formattable = true

theorem exists_parses_iff {capabilities : Capabilities} :
    (∃ parse, Parses capabilities parse) ↔
      capabilities.spanParsable = true ∨ capabilities.parsable = true := by
  constructor
  · intro ⟨parse, parses⟩
    cases parses with
    | span able => exact .inl able
    | text unable able => exact .inr able
  · intro able
    by_cases span : capabilities.spanParsable = true
    · exact ⟨_, .span span⟩
    · exact ⟨_, .text (Bool.eq_false_iff.mpr span) (able.resolve_left span)⟩

theorem exists_formats_iff {capabilities : Capabilities} (format : Option String) :
    (∃ write, Formats capabilities format write) ↔
      format = none ∨ capabilities.spanFormattable = true ∨ capabilities.formattable = true := by
  constructor
  · intro ⟨write, formats⟩
    cases formats with
    | span able => exact .inr (.inl able)
    | text unable able => exact .inr (.inr able)
    | display unable without => exact .inl without
  · intro able
    by_cases span : capabilities.spanFormattable = true
    · exact ⟨_, .span span⟩
    · have noSpan := Bool.eq_false_iff.mpr span
      by_cases text : capabilities.formattable = true
      · exact ⟨_, .text noSpan text⟩
      · have without : format = none := by simpa [span, text] using able
        exact ⟨_, .display ⟨noSpan, Bool.eq_false_iff.mpr text⟩ without⟩

theorem exists_classify_value_iff {name : String} {capabilities : Capabilities}
    {format : Option String} :
    (∃ found, classify (.value name capabilities) format = .ok found) ↔
      (capabilities.spanParsable = true ∨ capabilities.parsable = true) ∧
        (format = none ∨ capabilities.spanFormattable = true ∨
          capabilities.formattable = true) := by
  rw [← exists_parses_iff, ← exists_formats_iff format]
  simp only [classify_eq_ok_iff]
  constructor
  · intro ⟨found, classified⟩
    cases classified with
    | value name parses formats => exact ⟨⟨_, parses⟩, _, formats⟩
  · intro ⟨⟨parse, parses⟩, write, formats⟩
    exact ⟨_, .value name parses formats⟩

/-- A classification fits its type, reads what it writes and uses the format it was given.
A value type that can do more is classified with every format with which it was before. -/
theorem classify_uses_its_format :
    (∀ type format found, classify type format = .ok found → found.IsCoherent type format) ∧
    ∀ name fewer more format, more.Extends fewer →
      (∃ found, classify (.value name fewer) format = .ok found) →
        ∃ found, classify (.value name more) format = .ok found := by
  refine ⟨fun _ _ _ classified => isCoherent_of_classify classified, ?_⟩
  intro name fewer more format extended classified
  obtain ⟨parsed, formatted⟩ := exists_classify_value_iff.mp classified
  apply exists_classify_value_iff.mpr
  exact ⟨parsed.imp extended.spanParsable extended.parsable,
    formatted.imp_right (Or.imp extended.spanFormattable extended.formattable)⟩

theorem formats_of_identifier_and_duration :
    (⟨.enumeration .search, .enumeration .search, 1, false⟩ : Classification).IsCoherent
        (.enumeration "Level" ⟨[⟨"High", 2⟩, ⟨"", 0⟩]⟩) none ∧
      (⟨.guid .hexadecimal, .guid .hexadecimal, 68, true⟩ : Classification).IsCoherent
        .plainGuid (some "x") ∧
      ∃ found, classify (.value "Duration" .primitive) (some "c") = .ok found := by
  obtain ⟨coherent, extended⟩ := classify_uses_its_format
  refine ⟨coherent _ _ _ rfl, coherent _ _ _ rfl, ?_⟩
  have more : Capabilities.primitive.Extends ⟨false, true, false, true⟩ :=
    ⟨fun _ => rfl, fun _ => rfl, fun _ => rfl, fun _ => rfl⟩
  exact extended "Duration" _ _ (some "c") more ⟨_, rfl⟩

end CompositeKey
