import CompositeKey.Document.Decoder
import CompositeKey.Document.Json.Format
import CompositeKey.Proofs.Document.Fields

/-!
# Decoding what was encoded as JSON

A decoder restores a value from a document when it gives the value back wherever it
may go down as far as the document goes.  No link is followed in JSON.
-/

set_option autoImplicit false

namespace CompositeKey

namespace Json

mutual

/-- The number of arrays and objects that lie within one another. -/
def depth : Json → Nat
  | .array items => itemsDepth items + 1
  | .object fields => fieldsDepth fields + 1
  | _ => 0

def itemsDepth : List Json → Nat
  | [] => 0
  | item :: rest => max (depth item) (itemsDepth rest)

def fieldsDepth : List (JsonText × Json) → Nat
  | [] => 0
  | (_, value) :: rest => max (depth value) (fieldsDepth rest)

end

theorem itemsDepth_le_iff {items : List Json} {levels : Nat} :
    itemsDepth items ≤ levels ↔ ∀ item ∈ items, item.depth ≤ levels := by
  induction items with
  | nil => simp [itemsDepth]
  | cons item rest ih => rw [itemsDepth, Nat.max_le, ih, List.forall_mem_cons]

theorem fieldsDepth_le_iff {fields : List (JsonText × Json)} {levels : Nat} :
    fieldsDepth fields ≤ levels ↔ ∀ field ∈ fields, field.2.depth ≤ levels := by
  induction fields with
  | nil => simp [fieldsDepth]
  | cons field rest ih => rw [fieldsDepth, Nat.max_le, ih, List.forall_mem_cons]

theorem depth_array_le_iff {items : List Json} {levels : Nat} :
    (array items).depth ≤ levels + 1 ↔ ∀ item ∈ items, item.depth ≤ levels := by
  rw [depth, Nat.add_le_add_iff_right, itemsDepth_le_iff]

theorem depth_record_le_iff {fields : List (String × Json)} {levels : Nat} :
    (record fields).depth ≤ levels + 1 ↔ ∀ field ∈ fields, field.2.depth ≤ levels := by
  rw [record, depth, Nat.add_le_add_iff_right, fieldsDepth_le_iff, List.forall_mem_map]

end Json

theorem Decoding.liftM_some {α : Type} (value : α) :
    (liftM (some value) : Decoding α) = pure value := rfl

namespace Decoder

variable {α : Type}

def Restores (decoder : Decoder Json α) (document : Json) (value : α) : Prop :=
  ∀ levels, document.depth ≤ levels → decoder levels document = pure value

theorem restores_text (value : String) : Restores text (Json.ofString value) value := by
  intro levels _
  rfl

theorem restores_flag (value : Bool) : Restores flag (.bool value) value := by
  intro levels _
  rfl

theorem restores_integer (value : Int64) : Restores integer (.integer value.toInt) value := by
  intro levels _
  have inRange : -9223372036854775808 ≤ value.toInt ∧ value.toInt ≤ 9223372036854775807 := by
    have low := value.le_toInt
    have high := value.toInt_lt
    omega
  have read : integer levels (Json.integer value.toInt) =
      if -9223372036854775808 ≤ value.toInt ∧ value.toInt ≤ 9223372036854775807 then
        pure (Int64.ofInt value.toInt)
      else failure := rfl
  rw [read, if_pos inRange, Int64.ofInt_toInt]

theorem restores_character (value : Char) :
    Restores character (Json.ofString (String.singleton value)) value := by
  intro levels shallow
  rw [character, restores_text _ levels shallow, pure_bind, String.toList_singleton]

theorem restores_unitVariant {table : List (String × α)} {name : String} {value : α}
    (found : table.lookup name = some value) :
    Restores (unitVariant table) (Json.ofString name) value := by
  intro levels _
  have read : unitVariant table levels (Json.ofString name) = liftM (table.lookup name) := rfl
  rw [read, found, Decoding.liftM_some]

section Items

variable {item : Decoder Json α} {encode : α → Json}

theorem optional_of_present {document : Json} (present : document.isNull = false) (levels : Nat) :
    optional item levels document = some <$> item levels document := by
  have absent : Document.isAbsent? document = some false := congrArg some present
  have followed : target document = pure document := rfl
  rw [optional, followed, pure_bind, absent, map_eq_pure_bind]
  rfl

theorem restores_optional (present : ∀ value, (encode value).isNull = false)
    (restores : ∀ value, Restores item (encode value) value) (value : Option α) :
    Restores (optional item) (Json.ofOption encode value) value := by
  intro levels shallow
  cases value with
  | none => rfl
  | some value =>
      rw [Json.ofOption, optional_of_present (present value), restores value levels shallow]
      rfl

theorem mapM_map {β : Type} {read : β → Decoding α} {written : α → β} {items : List α}
    (reads : ∀ item ∈ items, read (written item) = pure item) :
    (items.map written).mapM read = pure items := by
  induction items with
  | nil => rfl
  | cons item rest ih =>
      obtain ⟨first, others⟩ := List.forall_mem_cons.mp reads
      rw [List.map_cons, List.mapM_cons, first, ih others]
      rfl

theorem restores_list {items : List α}
    (restores : ∀ value ∈ items, Restores item (encode value) value) :
    Restores (list item) (.array (items.map encode)) items := by
  intro levels shallow
  cases levels with
  | zero => cases shallow
  | succ levels =>
      have deep := List.forall_mem_map.mp (Json.depth_array_le_iff.mp shallow)
      exact mapM_map fun value member => restores value member levels (deep value member)

end Items

section Records

variable {fields : List (String × Json)}

theorem fields_record (names : List String) (fields : List (String × Json)) :
    Decoder.fields names (Json.record fields) = liftM (selectFields? names fields) := by
  have parts : Document.record? (Json.record fields) =
      some (.named (fields.map fun field => (Json.string (some field.1), field.2))) := by
    simp [Document.record?, Json.record, Json.record?]
  have named : (fields.map fun field => (Json.string (some field.1), field.2)).mapM
      (fun field => (return (← text 0 field.1, field.2) : Decoding (String × Json))) =
        pure fields :=
    mapM_map fun field _ => rfl
  have followed : target (Json.record fields) = pure (Json.record fields) := rfl
  rw [Decoder.fields, followed, pure_bind, parts, Decoding.liftM_some, pure_bind]
  simp only [named, pure_bind]

theorem fields_array (names : List String) (values : List Json) :
    Decoder.fields names (.array values) = liftM (alignFields? names values) := rfl

theorem fields_of_names (distinct : (fields.map Prod.fst).Nodup) :
    Decoder.fields (fields.map Prod.fst) (Json.record fields) =
      pure (fields.map fun field => some field.2) := by
  rw [fields_record, selectFields?_names distinct, Decoding.liftM_some]

theorem restores_record {names : List String} {read : Nat → List (Option Json) → Decoding α}
    {value : α} (named : fields.map Prod.fst = names) (distinct : names.Nodup)
    (restores : ∀ levels, fields.Forall (fun field => field.2.depth ≤ levels) →
      read levels (fields.map fun field => some field.2) = pure value) :
    Restores (record names read) (Json.record fields) value := by
  intro levels shallow
  subst named
  cases levels with
  | zero => cases shallow
  | succ levels =>
      rw [record, fields_of_names distinct, pure_bind]
      exact restores levels (List.forall_iff_forall_mem.mpr (Json.depth_record_le_iff.mp shallow))

end Records

end Decoder

end CompositeKey
