import CompositeKey.Declaration.Encoder
import CompositeKey.Proofs.Document.Json.Decoding

/-!
# The kinds of types

A type is a record of its name and its kind.  Its decoder reads the name first, and the
kind says what becomes of it.
-/

set_option autoImplicit false

namespace CompositeKey

theorem Decoding.bind_failure {α β : Type} (first : Decoding α) :
    (first >>= fun _ => (failure : Decoding β)) = failure := by
  funext links
  change (first.run links >>= fun _ => none) = none
  cases first.run links <;> rfl

namespace TypeInfo

open Decoder

def payloadDecoder (name kind : String) : Decoder Json TypeInfo := fun levels payload =>
  if kind = "Collection" then collection name <$> decoder levels payload
  else if kind = "Enum" then enumeration name <$> EnumShape.decoder levels payload
  else if kind = "Value" then value name <$> Capabilities.decoder levels payload
  else if payload.isNull then ofUnitKind? name kind
  else failure

def kindDecoder (name : String) : Decoder Json TypeInfo := fun levels kind => do
  match ← Decoder.variant kind, levels with
  | (variant, none), _ => ofUnitKind? name variant
  | (_, some _), 0 => failure
  | (variant, some payload), below + 1 => payloadDecoder name variant below payload

def readFields (levels : Nat) : List (Option Json) → Decoding TypeInfo
  | [name, kind] => do
      let name ← required text levels name
      required (kindDecoder name) levels kind
  | _ => failure

theorem decoder_eq_record :
    (decoder : Decoder Json TypeInfo) = record ["name", "kind"] readFields := by
  funext levels document
  cases levels with
  | zero => rw [decoder]; rfl
  | succ levels =>
      rw [decoder, record]
      congr 1
      funext values
      rcases values with _ | ⟨name, _ | ⟨_ | kind, _ | _⟩⟩
      · rfl
      · rfl
      · exact (Decoding.bind_failure _).symm
      · rfl
      · refine bind_congr fun name => bind_congr fun parts => ?_
        obtain ⟨variant, _ | payload⟩ := parts
        · rfl
        · cases levels with
          | zero => exact if_neg (Nat.not_succ_le_zero 0)
          | succ below =>
              change _ = payloadDecoder name variant below payload
              rw [payloadDecoder, map_eq_pure_bind, map_eq_pure_bind, map_eq_pure_bind]
              exact if_pos (Nat.le_add_left 1 below)
      · rfl

theorem kindDecoder_payload (name kind : String) (levels : Nat) (payload : Json) :
    kindDecoder name (levels + 1) (Json.variant kind payload) =
      payloadDecoder name kind levels payload := rfl

theorem restores_of_kind {name : String} {kind : Json} {type : TypeInfo}
    (restores : Restores (kindDecoder name) kind type) :
    Restores decoder (Json.record [("name", Json.ofString name), ("kind", kind)]) type := by
  rw [decoder_eq_record]
  refine restores_record rfl (by decide) ?_
  intro levels deep
  obtain ⟨named, deep⟩ := deep
  have named := restores_text name levels named
  have kind := restores levels deep
  simp [readFields, required, named, kind]

theorem restores_of_payload {name kind : String} {payload : Json} {type : TypeInfo}
    (restores : Restores (payloadDecoder name kind) payload type) :
    Restores (kindDecoder name) (Json.variant kind payload) type := by
  intro levels shallow
  cases levels with
  | zero => cases shallow
  | succ levels =>
      have deep := Json.depth_record_le_iff.mp shallow (kind, payload) List.mem_cons_self
      rw [kindDecoder_payload]
      exact restores levels deep

end TypeInfo

end CompositeKey
