import CompositeKey.Proofs.Declaration.Interchange
import CompositeKey.Proofs.Declaration.Reading
import Mathlib.Logic.Relation

/-!
# Declarations are read for their content

What a change does to the decoding of one record it does to the decoding of the document.
So the order of fields does not matter, nor fields that nobody reads, nor whether a default
is written; and a field without a default may be missing from no record.
-/

set_option autoImplicit false

namespace CompositeKey

open Decoder

section Record

variable {kind : RecordKind} {effect : Effect} {field : Field}

theorem responds_record {α : Type} {names : List String}
    {read : Nat → List (Option Json) → Decoding α} {old new : List (String × Json)}
    (responds : ∀ values, selectFields? names old = some values →
      ∃ changed, selectFields? names new = some changed ∧
        ∀ levels, Decoding.Responds effect (read levels values) (read levels changed)) :
    (record names read).Responds effect (Json.record old) (Json.record new) := by
  intro levels
  cases levels with
  | zero => exact Decoding.responds_of_failure _
  | succ levels =>
      rw [record, record, fields_record, fields_record]
      cases selected : selectFields? names old with
      | none => exact Decoding.responds_of_failure _
      | some values =>
          obtain ⟨changed, reselected, responds⟩ := responds values selected
          rw [reselected]
          exact responds levels

namespace RecordKind

theorem keeps_of_selected {old new : List (String × Json)}
    (selects : ∀ values, selectFields? kind.fieldNames old = some values →
      selectFields? kind.fieldNames new = some values) :
    kind.decoder.Responds .keeps (Json.record old) (Json.record new) := by
  obtain ⟨read, decoded, -⟩ := kind.readsRecord
  rw [decoded]
  exact responds_record fun values selected =>
    ⟨values, selects values selected, fun levels => Decoding.responds_self _⟩

/-- A field of the record is given another value or none, and the record responds as the
decoding of the field does. -/
theorem responds_replaced {old : Json} {new : Option Json} (member : field ∈ kind.fields)
    (changes : field.Changes effect (some old) new) (front back : List (String × Json)) :
    kind.decoder.Responds effect (Json.record (front ++ (field.name, old) :: back))
      (Json.record (front ++ new.toList.map (field.name, ·) ++ back)) := by
  obtain ⟨read, decoded, reads⟩ := kind.readsRecord
  rw [decoded]
  apply responds_record
  intro values selected
  obtain ⟨held, stood, rfl, reselected⟩ :=
    selectFields?_replace (List.mem_map_of_mem member) selected new
  refine ⟨_, reselected, fun levels => ?_⟩
  obtain ⟨order, permuted, reads⟩ := reads levels
  rw [← stood] at changes
  have distinct : (order.map Field.name).Nodup :=
    (permuted.map Field.name).nodup_iff.mpr kind.nodup_fieldNames
  exact reads.responds distinct (permuted.mem_iff.mpr member) changes

theorem responds_field {old new : Json} (member : field ∈ kind.fields)
    (responds : field.content.Responds effect old new) (front back : List (String × Json)) :
    kind.decoder.Responds effect (Json.record (front ++ (field.name, old) :: back))
      (Json.record (front ++ (field.name, new) :: back)) := by
  have replaced := responds_replaced member (.inside responds) front back
  rw [Option.toList_some, List.map_singleton, List.append_assoc, List.singleton_append] at replaced
  exact replaced

theorem responds_removed {value : Json} (member : field ∈ kind.fields)
    (changes : field.Changes effect (some value) none) (front back : List (String × Json)) :
    kind.decoder.Responds effect (Json.record (front ++ (field.name, value) :: back))
      (Json.record (front ++ back)) := by
  have replaced := responds_replaced member changes front back
  rw [Option.toList_none, List.map_nil, List.append_nil] at replaced
  exact replaced

theorem decoder_array {values : List Json} (fits : values.length ≤ kind.fieldNames.length)
    (levels : Nat) :
    kind.decoder levels (.array values) =
      kind.decoder levels (Json.record (kind.fieldNames.zip values)) := by
  obtain ⟨read, decoded, -⟩ := kind.readsRecord
  rw [decoded]
  cases levels with
  | zero => rfl
  | succ levels =>
      rw [record, record, fields_array, fields_record]
      exact congrArg (liftM · >>= read levels)
        (alignFields?_eq_selectFields? kind.nodup_fieldNames fits)

theorem decoder_array_of_lt {values : List Json} (excess : kind.fieldNames.length < values.length)
    (levels : Nat) : kind.decoder levels (.array values) = failure := by
  obtain ⟨read, decoded, -⟩ := kind.readsRecord
  rw [decoded]
  cases levels with
  | zero => rfl
  | succ levels =>
      have none : alignFields? kind.fieldNames values = none := if_neg (Nat.not_le_of_lt excess)
      rw [record, fields_array]
      exact congrArg (liftM · >>= read levels) none

theorem responds_position {first last : List Field} {front back : List Json} {old new : Json}
    (fields : kind.fields = first ++ field :: last) (aligned : front.length = first.length)
    (responds : field.content.Responds effect old new) :
    kind.decoder.Responds effect (.array (front ++ old :: back))
      (.array (front ++ new :: back)) := by
  have named : kind.fieldNames = first.map Field.name ++ field.name :: last.map Field.name := by
    rw [fieldNames, fields, List.map_append, List.map_cons]
  have zipped : ∀ value : Json, kind.fieldNames.zip (front ++ value :: back) =
      (first.map Field.name).zip front ++
        (field.name, value) :: (last.map Field.name).zip back := by
    intro value
    rw [named, List.zip_append (by rw [List.length_map, aligned]), List.zip_cons_cons]
  have member : field ∈ kind.fields := by simp [fields]
  intro levels
  by_cases fits : (front ++ old :: back).length ≤ kind.fieldNames.length
  · have still : (front ++ new :: back).length ≤ kind.fieldNames.length := by simpa using fits
    rw [decoder_array fits, decoder_array still, zipped, zipped]
    exact responds_field member responds _ _ levels
  · -- The old array has a value too many, so nothing was decoded of it.
    rw [decoder_array_of_lt (Nat.lt_of_not_le fits)]
    exact Decoding.responds_of_failure _

theorem keeps_of_respelled {old new : List (String × Json)} (respelled : Respelled kind old new) :
    kind.decoder.Responds .keeps (Json.record old) (Json.record new) := by
  cases respelled with
  | reordered permuted =>
      exact keeps_of_selected fun _ selected => selectFields?_of_perm permuted selected
  | added unknown value =>
      refine keeps_of_selected fun _ selected => ?_
      rw [selectFields?_of_unknown unknown]
      exact selected
  | omitted member default => exact responds_removed member (.omitted default) _ _

theorem breaks_of_stripped {old new : List (String × Json)} (stripped : Stripped kind old new) :
    kind.decoder.Responds .breaks (Json.record old) (Json.record new) := by
  cases stripped with
  | removed member required => exact responds_removed member (.missing required) _ _

end RecordKind

end Record

section Parts

variable {α : Type} {effect : Effect} {decoder : Decoder Json α} {old new : Json}

theorem Decoder.Responds.list (responds : decoder.Responds effect old new)
    (front back : List Json) :
    (Decoder.list decoder).Responds effect (.array (front ++ old :: back))
      (.array (front ++ new :: back)) := by
  intro levels
  cases levels with
  | zero => exact Decoding.responds_of_failure _
  | succ levels => exact Decoding.responds_mapM (responds levels) front back

theorem Decoder.Responds.optional (responds : decoder.Responds effect old new)
    (present : old.isNull = false) (still : new.isNull = false) :
    (Decoder.optional decoder).Responds effect old new := by
  intro levels
  rw [optional_of_present present, optional_of_present still]
  exact (responds levels).map some

theorem TypeInfo.responds_payload {variant : String} {kind : RecordKind}
    (known : RecordKind.ofVariant? variant = some kind)
    (responds : kind.decoder.Responds effect old new) (name : String) :
    (kindDecoder name).Responds effect (Json.variant variant old) (Json.variant variant new) := by
  intro levels
  cases levels with
  | zero => exact Decoding.responds_of_failure _
  | succ levels =>
      rw [kindDecoder_payload, kindDecoder_payload, payloadDecoder, payloadDecoder]
      unfold RecordKind.ofVariant? at known
      split at known
      · cases known
        rw [if_pos rfl, if_pos rfl]
        exact (responds levels).map _
      · cases known
        rw [if_neg (by decide), if_pos rfl, if_neg (by decide), if_pos rfl]
        exact (responds levels).map _
      · cases known
        rw [if_neg (by decide), if_neg (by decide), if_pos rfl, if_neg (by decide),
          if_neg (by decide), if_pos rfl]
        exact (responds levels).map _
      · cases known

end Parts

namespace Within

variable {change : RecordKind → List (String × Json) → List (String × Json) → Prop}
  {effect : Effect} {old new : Json}

theorem isNull_eq_false {kind : RecordKind} (changes : Within change (.record kind) old new) :
    old.isNull = false ∧ new.isNull = false := by
  cases changes <;> exact ⟨rfl, rfl⟩

theorem responds
    (step : ∀ kind old new, change kind old new →
      kind.decoder.Responds effect (Json.record old) (Json.record new))
    {content : Content} (changes : Within change content old new) :
    content.Responds effect old new := by
  induction changes with
  | here changed => exact step _ _ _ changed
  | field member _ ih => exact RecordKind.responds_field member ih _ _
  | position fields aligned _ ih => exact RecordKind.responds_position fields aligned ih
  | item _ ih => exact ih.list _ _
  | present inside ih =>
      obtain ⟨present, still⟩ := inside.isNull_eq_false
      exact ih.optional present still
  | payload known _ ih => exact TypeInfo.responds_payload known ih

end Within

/-! ## Documents of declarations -/

def SameContent : Json → Json → Prop :=
  Relation.ReflTransGen (Within Respelled (.list .declaration))

variable {levels links : Nat} {old new : Json} {declarations : List KeyDeclaration}

theorem declarationsOf?_of_respelled (respelled : Within Respelled (.list .declaration) old new)
    (accepted : declarationsOf? levels links old = some declarations) :
    declarationsOf? levels links new = some declarations :=
  Decoder.Responds.run_eq
    (respelled.responds fun _ _ _ changed => RecordKind.keeps_of_respelled changed) accepted

theorem declarationsOf?_of_stripped (stripped : Within Stripped (.list .declaration) old new)
    (accepted : declarationsOf? levels links old = some declarations) :
    declarationsOf? levels links new = none :=
  Decoder.Responds.run_eq
    (stripped.responds fun _ _ _ changed => RecordKind.breaks_of_stripped changed) accepted

theorem declarationsOf?_of_sameContent (same : SameContent old new)
    (accepted : declarationsOf? levels links old = some declarations) :
    declarationsOf? levels links new = some declarations := by
  induction same with
  | refl => exact accepted
  | tail _ respelled ih => exact declarationsOf?_of_respelled respelled ih

theorem loadJson_of_refused {text : String} {document : Json}
    (parsed : Json.parse? text = some document)
    (refused : declarationsOf? jsonLevels 0 document = none) : loadJson text = .error .json := by
  rw [loadJson, parsed, Option.bind_some, refused]

/-- What is loaded from an accepted text depends on the content of its document only, and
no field without a default may be missing from it. -/
theorem loadJson_depends_on_content {text : String} (loaded : loadJson text = .ok declarations) :
    ∃ document, Json.parse? text = some document ∧
      (∀ other changed, Json.parse? other = some changed → SameContent document changed →
        loadJson other = .ok declarations) ∧
      ∀ other changed, Json.parse? other = some changed →
        Within Stripped (.list .declaration) document changed → loadJson other = .error .json := by
  obtain ⟨document, parsed, accepted⟩ := loadJson_eq_ok_iff.mp loaded
  refine ⟨document, parsed, ?_, ?_⟩
  · intro other changed read same
    exact loadJson_eq_ok_iff.mpr ⟨changed, read, declarationsOf?_of_sameContent same accepted⟩
  · intro other changed read stripped
    exact loadJson_of_refused read (declarationsOf?_of_stripped stripped accepted)

def tagKeys : List KeyDeclaration :=
  [⟨(TargetType.ofName "Tag").withProperty (.ofType "Id" .plainGuid), .ofTemplate "{Id}"⟩]

def tagProperty (setter : List (String × Json)) : Json :=
  Json.record [
    ("name", Json.ofString "Id"),
    ("ty", TypeInfo.plainGuid.toJson),
    ("getter", Json.ofString "Public"),
    ("setter", Json.record setter)]

def tagDocument (setter : List (String × Json)) : Json :=
  .array [Json.record [
    ("target", Json.record [
      ("name", Json.ofString "Tag"),
      ("shape", Json.ofString "Record"),
      ("is_partial", .bool true),
      ("properties", .array [tagProperty setter]),
      ("constructors", .array [])]),
    ("config", (KeyConfig.ofTemplate "{Id}").toJson)]]

theorem declarationsJson_tagKeys :
    declarationsJson tagKeys =
      tagDocument [("visibility", Json.ofString "Public"), ("init_only", .bool false)] := rfl

theorem within_tagDocument
    {change : RecordKind → List (String × Json) → List (String × Json) → Prop}
    {setter changed : List (String × Json)} (step : change .setter setter changed) :
    Within change (.list .declaration) (tagDocument setter) (tagDocument changed) := by
  have property : Within change (.record .property) (tagProperty setter) (tagProperty changed) :=
    @Within.field _ .property ⟨"setter", .optional .setter, some .null⟩ _ _ [_, _, _] []
      (.tail _ (.tail _ (.tail _ (.head _)))) (.present (.here step))
  have listed : Within change (.list .property) (.array [tagProperty setter])
      (.array [tagProperty changed]) := @Within.item _ _ _ _ [] [] property
  exact @Within.item _ _ _ _ [] []
    (@Within.field _ .declaration ⟨"target", .record .target, none⟩ _ _ [] [_] (.head _)
      (@Within.field _ .target ⟨"properties", .list .property, none⟩ _ _ [_, _, _] [_]
        (.tail _ (.tail _ (.tail _ (.head _)))) listed))

theorem sameContent_tagDocument :
    SameContent (declarationsJson tagKeys)
      (tagDocument [("visibility", Json.ofString "Public"), ("readonly", .null)]) := by
  have omitted : Respelled .setter
      [("visibility", Json.ofString "Public"), ("init_only", .bool false)]
      [("visibility", Json.ofString "Public")] :=
    @Respelled.omitted .setter ⟨"init_only", .leaf, some (.bool false)⟩ _ [_] []
      (.tail _ (.head _)) rfl
  have added : Respelled .setter [("visibility", Json.ofString "Public")]
      [("readonly", .null), ("visibility", Json.ofString "Public")] :=
    @Respelled.added .setter "readonly" [] _ (by decide) .null
  have reordered : Respelled .setter
      [("readonly", .null), ("visibility", Json.ofString "Public")]
      [("visibility", Json.ofString "Public"), ("readonly", .null)] := .reordered (.swap _ _ _)
  rw [declarationsJson_tagKeys]
  exact ((Relation.ReflTransGen.single (within_tagDocument omitted)).tail
    (within_tagDocument added)).tail (within_tagDocument reordered)

theorem noDecimal_tagDocument {setter : List (String × Json)}
    (exact : ∀ field ∈ setter, field.2.NoDecimal) : (tagDocument setter).NoDecimal := by
  simp only [tagDocument, tagProperty, TypeInfo.toJson, TypeInfo.plainGuid, KeyConfig.toJson,
    KeyConfig.ofTemplate, Json.ofOption]
  simpa using exact

theorem tag_keys_in_other_words :
    loadJson (tagDocument [("visibility", Json.ofString "Public"), ("readonly", .null)]).compact =
        .ok tagKeys ∧
      loadJson (tagDocument [("init_only", .bool false)]).compact = .error .json := by
  have parsed := Json.parse?_compact (noDecimal_declarationsJson tagKeys)
  have keyed : ∀ declaration ∈ tagKeys, KeyedByName declaration.target.properties := by
    rw [tagKeys, List.forall_mem_singleton]
    exact KeyedByName.empty.insert _
  have loaded := loadJson_of_parse? parsed keyed (by decide +kernel)
  obtain ⟨document, read, respelled, stripped⟩ := loadJson_depends_on_content loaded
  rw [parsed] at read
  cases read
  constructor
  · exact respelled _ _ (Json.parse?_compact (noDecimal_tagDocument (by simp)))
      sameContent_tagDocument
  · refine stripped _ _ (Json.parse?_compact (noDecimal_tagDocument (by simp))) ?_
    exact within_tagDocument (@Stripped.removed .setter ⟨"visibility", .leaf, none⟩ _ [] [_]
      (.head _) rfl)

end CompositeKey
