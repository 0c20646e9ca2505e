import CompositeKey.Declaration.Encoder
import CompositeKey.Proofs.Document.Json.Decoding

/-!
# Encodings that lose nothing

Values that are encoded as the same JSON are the same, piece by piece: texts, records,
variants, lists and values that may be left out.
-/

set_option autoImplicit false

namespace CompositeKey

namespace Json

@[simp]
theorem ofString_inj {first second : String} :
    ofString first = ofString second ↔ first = second := by
  simp [ofString]

theorem record_inj {first second : List (String × Json)} :
    record first = record second ↔ first = second := by
  have named : ∀ field other : String × Json,
      (some field.1, field.2) = (some other.1, other.2) → field = other := by
    rintro ⟨name, value⟩ ⟨otherName, otherValue⟩ equal
    simpa using equal
  rw [record, record, object.injEq, List.map_inj_right named]

@[simp]
theorem variant_inj {name other : String} {payload otherPayload : Json} :
    variant name payload = variant other otherPayload ↔ name = other ∧ payload = otherPayload := by
  simp [variant, record_inj]

@[simp]
theorem variant_ne_ofString {name other : String} {payload : Json} :
    variant name payload ≠ ofString other := by
  simp [variant, record, ofString]

@[simp]
theorem ofString_ne_variant {name other : String} {payload : Json} :
    ofString other ≠ variant name payload :=
  variant_ne_ofString.symm

theorem ofOption_inj {α : Type} {encode : α → Json} (present : ∀ value, encode value ≠ .null)
    (injective : ∀ value other, encode value = encode other → value = other)
    {first second : Option α} :
    ofOption encode first = ofOption encode second ↔ first = second := by
  constructor
  · intro same
    cases first with
    | none =>
        cases second with
        | none => rfl
        | some value => exact absurd same.symm (present value)
    | some value =>
        cases second with
        | none => exact absurd same (present value)
        | some other => exact congrArg some (injective value other same)
  · rintro rfl
    rfl

@[simp]
theorem ofOption_ofString_inj {first second : Option String} :
    ofOption ofString first = ofOption ofString second ↔ first = second :=
  ofOption_inj (fun _ => Json.noConfusion) fun _ _ => ofString_inj.mp

end Json

theorem Decoder.encode_inj {α : Type} {decoder : Decoder Json α} {encode : α → Json}
    (restores : ∀ value, Restores decoder (encode value) value) {first second : α} :
    encode first = encode second ↔ first = second := by
  constructor
  · intro same
    have read := restores first _ (Nat.le_refl _)
    rw [same, restores second _ (Nat.le_refl _)] at read
    have results : some (first, 0) = some (second, 0) := (congrFun read 0).symm
    exact congrArg Prod.fst (Option.some.inj results)
  · rintro rfl
    rfl

end CompositeKey
