import CompositeKey.Proofs.Declaration.Interchange
import CompositeKey.Proofs.Document.Json.Encoding
import CompositeKey.Proofs.Key.Splitting
import CompositeKey.Report
import Mathlib.Algebra.Ring.Int.Defs

/-!
# Key specifications written as JSON

The JSON of a specification tells its parts, with all that is in them.  A composite one
is written as its sections; they tell the list of parts and the place of the delimiter
in it.
-/

set_option autoImplicit false

namespace CompositeKey

@[simp]
theorem TextRange.toJson_inj {first second : TextRange} :
    first.toJson = second.toJson ↔ first = second := by
  simp [toJson, TextRange.ext_iff]

@[simp]
theorem Json.ofChar_inj {first second : Char} : ofChar first = ofChar second ↔ first = second := by
  have singletons : String.singleton first = String.singleton second ↔ first = second := by
    rw [← String.toList_inj, String.toList_singleton, String.toList_singleton]
    simp
  rw [ofChar, ofChar, ofString_inj, singletons]

@[simp]
theorem Json.ofFormat_inj {first second : Option String} :
    ofFormat first = ofFormat second ↔ first = second :=
  ofOption_ofString_inj

@[simp]
theorem TypeInfo.toJson_inj {first second : TypeInfo} :
    first.toJson = second.toJson ↔ first = second :=
  Decoder.encode_inj restores_typeInfo

@[simp]
theorem PropertyInfo.toJson_inj {first second : PropertyInfo} :
    first.toJson = second.toJson ↔ first = second :=
  Decoder.encode_inj restores_property

@[simp]
theorem EnumDispatch.toJson_inj {first second : EnumDispatch} :
    first.toJson = second.toJson ↔ first = second := by
  cases first <;> cases second <;> simp [toJson]

@[simp]
theorem GuidFormat.toJson_inj {first second : GuidFormat} :
    first.toJson = second.toJson ↔ first = second := by
  cases first <;> cases second <;> simp [toJson, letter]

@[simp]
theorem ParseStrategy.toJson_inj {first second : ParseStrategy} :
    first.toJson = second.toJson ↔ first = second := by
  cases first <;> cases second <;> simp [toJson]

@[simp]
theorem FormatStrategy.toJson_inj {first second : FormatStrategy} :
    first.toJson = second.toJson ↔ first = second := by
  cases first <;> cases second <;> simp [toJson]

@[simp]
theorem DelimiterPart.toJson_inj {first second : DelimiterPart} :
    first.toJson = second.toJson ↔ first = second := by
  cases first
  cases second
  simp [toJson, Json.record_inj]

@[simp]
theorem PropertyPart.toJson_inj {first second : PropertyPart} :
    first.toJson = second.toJson ↔ first = second := by
  cases first
  cases second
  simp [toJson, Json.record_inj]

@[simp]
theorem RepeatingPart.toJson_inj {first second : RepeatingPart} :
    first.toJson = second.toJson ↔ first = second := by
  cases first
  cases second
  simp [toJson, Json.record_inj]

namespace KeyPart

@[simp]
theorem toJson_inj {first second : KeyPart} : first.toJson = second.toJson ↔ first = second := by
  cases first <;> cases second <;> simp [toJson, Json.record_inj]

@[simp]
theorem map_toJson_inj {first second : List KeyPart} :
    first.map toJson = second.map toJson ↔ first = second :=
  List.map_inj_right fun _ _ => toJson_inj.mp

end KeyPart

@[simp]
theorem PrimarySpec.toJson_inj {first second : PrimarySpec} :
    first.toJson = second.toJson ↔ first = second := by
  cases first
  cases second
  simp [toJson, Json.record_inj]

@[simp]
theorem CompositeSpec.toJson_inj {first second : CompositeSpec} :
    first.toJson = second.toJson ↔ first = second := by
  cases first
  cases second
  simp [toJson, Json.record_inj]

@[simp]
theorem KeySpec.toJson_inj {first second : KeySpec} :
    first.toJson = second.toJson ↔ first = second := by
  cases first <;> cases second <;> simp [toJson]

namespace CompositeSpec

variable {parts others : List KeyPart} {index other : Nat} {invariant otherInvariant : Bool}
  {first second : CompositeSpec}

theorem ofParts?_of_toJson (split : ofParts? parts index invariant = some first)
    (otherSplit : ofParts? others other otherInvariant = some second)
    (same : first.toJson = second.toJson) :
    parts = others ∧ index = other ∧ invariant = otherInvariant := by
  obtain rfl := toJson_inj.mp same
  obtain ⟨place, formatting⟩ := length_partition_of_ofParts? split
  obtain ⟨otherPlace, otherFormatting⟩ := length_partition_of_ofParts? otherSplit
  refine ⟨?_, place.symm.trans otherPlace, formatting.symm.trans otherFormatting⟩
  exact (parts_of_ofParts? split).symm.trans (parts_of_ofParts? otherSplit)

end CompositeSpec

theorem noDecimal_textRange (range : TextRange) : range.toJson.NoDecimal := by
  simp [TextRange.toJson]

theorem noDecimal_parseStrategy (strategy : ParseStrategy) : strategy.toJson.NoDecimal := by
  cases strategy with
  | enumeration dispatch =>
      cases dispatch <;> simp [ParseStrategy.toJson, Json.variant, EnumDispatch.toJson]
  | _ => simp [ParseStrategy.toJson, Json.variant, GuidFormat.toJson]

theorem noDecimal_formatStrategy (strategy : FormatStrategy) : strategy.toJson.NoDecimal := by
  cases strategy with
  | enumeration dispatch =>
      cases dispatch <;> simp [FormatStrategy.toJson, Json.variant, EnumDispatch.toJson]
  | _ => simp [FormatStrategy.toJson, Json.variant, GuidFormat.toJson]

theorem noDecimal_keyPart (part : KeyPart) : part.toJson.NoDecimal := by
  have format : ∀ format, (Json.ofFormat format).NoDecimal :=
    Json.noDecimal_ofOption Json.noDecimal_ofString
  cases part <;>
    simp [KeyPart.toJson, Json.variant, DelimiterPart.toJson, PropertyPart.toJson,
      RepeatingPart.toJson, Json.ofChar, format, noDecimal_property, noDecimal_typeInfo,
      noDecimal_parseStrategy, noDecimal_formatStrategy, noDecimal_textRange]

theorem noDecimal_keySpec (spec : KeySpec) : spec.toJson.NoDecimal := by
  cases spec <;>
    simp [KeySpec.toJson, Json.variant, PrimarySpec.toJson, CompositeSpec.toJson,
      noDecimal_keyPart]

end CompositeKey
