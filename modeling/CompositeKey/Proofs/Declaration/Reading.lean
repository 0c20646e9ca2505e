import CompositeKey.Proofs.Declaration.Schema
import CompositeKey.Proofs.Declaration.TypeKind
import CompositeKey.Proofs.Document.Response

/-!
# How records of declarations are read

A record decoder reads each of its fields once, by name, and what a change does to the
decoding of one field it does to the decoding of the record.
-/

set_option autoImplicit false

namespace CompositeKey

namespace RecordKind

def Value : RecordKind → Type
  | .declaration => KeyDeclaration
  | .config => KeyConfig
  | .target => TargetType
  | .property => PropertyInfo
  | .type => TypeInfo
  | .setter => Setter
  | .constructor => Constructor
  | .capabilities => Capabilities
  | .enumeration => EnumShape
  | .member => EnumMember

def decoder : (kind : RecordKind) → Decoder Json kind.Value
  | .declaration => KeyDeclaration.decoder
  | .config => KeyConfig.decoder
  | .target => TargetType.decoder
  | .property => PropertyInfo.decoder
  | .type => TypeInfo.decoder
  | .setter => Setter.decoder
  | .constructor => Constructor.decoder
  | .capabilities => Capabilities.decoder
  | .enumeration => EnumShape.decoder
  | .member => EnumMember.decoder

end RecordKind

/-- Whatever is decoded of a content responds to a change of it. -/
def Content.Responds (effect : Effect) : Content → Json → Json → Prop
  | .leaf, _, _ => False
  | .record kind, old, new => kind.decoder.Responds effect old new
  | .list kind, old, new => (Decoder.list kind.decoder).Responds effect old new
  | .optional kind, old, new => (Decoder.optional kind.decoder).Responds effect old new
  | .typeKind, old, new => ∀ name, (TypeInfo.kindDecoder name).Responds effect old new

open Decoder

section Reading

variable {α : Type} {effect : Effect} {field : Field} {old new : Json}

def Content.IsReadBy (content : Content) (decoder : Decoder Json α) : Prop :=
  ∀ effect old new, content.Responds effect old new → decoder.Responds effect old new

theorem isReadBy_leaf (decoder : Decoder Json α) : Content.leaf.IsReadBy decoder :=
  fun _ _ _ impossible => impossible.elim

theorem isReadBy_content_record (kind : RecordKind) : (Content.record kind).IsReadBy kind.decoder :=
  fun _ _ _ responds => responds

theorem isReadBy_content_list (kind : RecordKind) :
    (Content.list kind).IsReadBy (Decoder.list kind.decoder) :=
  fun _ _ _ responds => responds

theorem isReadBy_content_optional (kind : RecordKind) :
    (Content.optional kind).IsReadBy (Decoder.optional kind.decoder) :=
  fun _ _ _ responds => responds

theorem isReadBy_content_kind (name : String) :
    Content.typeKind.IsReadBy (TypeInfo.kindDecoder name) :=
  fun _ _ _ responds => responds name

namespace Field

/-- What may become of the value of a field, and with which effect. -/
inductive Changes (field : Field) : Effect → Option Json → Option Json → Prop where
  | inside {effect : Effect} {old new : Json} (responds : field.content.Responds effect old new) :
      Changes field effect (some old) (some new)
  | omitted {value : Json} (default : field.fallback = some value) :
      Changes field .keeps (some value) none
  | missing {value : Json} (needed : field.fallback = none) :
      Changes field .breaks (some value) none

def IsReadBy (field : Field) (read : Option Json → Decoding α) : Prop :=
  ∀ effect old new, field.Changes effect old new → Decoding.Responds effect (read old) (read new)

theorem isReadBy_required {decoder : Decoder Json α} (content : field.content.IsReadBy decoder)
    (needed : field.fallback = none) (levels : Nat) :
    field.IsReadBy (required decoder levels) := by
  intro effect old new changes
  cases changes with
  | inside responds => exact content effect _ _ responds levels
  | omitted default =>
      rw [needed] at default
      cases default
  | missing => exact Decoding.responds_failure _

theorem isReadBy_defaulted {decoder : Decoder Json α} {value : Json} {fallback : α}
    (content : field.content.IsReadBy decoder) (default : field.fallback = some value)
    (levels : Nat)
    (restored : Decoding.Responds .keeps (decoder levels value) (pure fallback)) :
    field.IsReadBy (defaulted fallback decoder levels) := by
  intro effect old new changes
  cases changes with
  | inside responds => exact content effect _ _ responds levels
  | omitted held =>
      rw [default] at held
      cases held
      exact restored
  | missing needed =>
      rw [default] at needed
      cases needed

end Field

/-- Fields are read one after the other, each by its name and once. -/
inductive Reads : List Field → ((String → Option Json) → Decoding α) → Prop where
  | done (result : α) : Reads [] fun _ => pure result
  | next {β : Type} {field : Field} {rest : List Field} {read : Option Json → Decoding β}
      {next : β → (String → Option Json) → Decoding α} (first : field.IsReadBy read)
      (others : ∀ value, Reads rest (next value)) :
      Reads (field :: rest) fun held => read (held field.name) >>= fun value => next value held

namespace Reads

variable {fields : List Field} {read : (String → Option Json) → Decoding α}

theorem last {read : Option Json → Decoding α} (isRead : field.IsReadBy read) :
    Reads [field] fun held => read (held field.name) := by
  have reads := Reads.next isRead Reads.done
  simp only [bind_pure] at reads
  exact reads

theorem congr (reads : Reads fields read) {held changed : String → Option Json}
    (same : ∀ field ∈ fields, held field.name = changed field.name) : read held = read changed := by
  induction reads with
  | done result => rfl
  | next _ _ ih =>
      obtain ⟨first, others⟩ := List.forall_mem_cons.mp same
      simp only [first]
      exact bind_congr fun value => ih value others

theorem responds (reads : Reads fields read) (distinct : (fields.map Field.name).Nodup)
    (member : field ∈ fields) {held : String → Option Json} {value : Option Json}
    (changes : field.Changes effect (held field.name) value) :
    Decoding.Responds effect (read held) (read (Function.update held field.name value)) := by
  induction reads with
  | done result => cases member
  | @next _ first rest _ next isRead others ih =>
      obtain ⟨fresh, distinct⟩ := List.nodup_cons.mp distinct
      obtain rfl | later := List.mem_cons.mp member
      · have behind : ∀ result, next result held =
            next result (Function.update held field.name value) := by
          intro result
          refine (others result).congr fun other listed => ?_
          have different : other.name ≠ field.name := fun same =>
            fresh (same ▸ List.mem_map_of_mem listed)
          rw [Function.update_of_ne different]
        simp only [behind, Function.update_self]
        exact (isRead effect _ _ changes).bind _
      · have different : first.name ≠ field.name := fun same =>
          fresh (same ▸ List.mem_map_of_mem later)
        simp only [Function.update_of_ne different]
        exact Decoding.responds_bind _ fun result => ih result distinct later

end Reads

def ReadsRecord (fields : List Field) (decoder : Decoder Json α) : Prop :=
  ∃ read, decoder = record (fields.map Field.name) read ∧ ∀ levels, ∃ order,
    order.Perm fields ∧ Reads order fun held => read levels ((fields.map Field.name).map held)

end Reading

/-! ## The records of declarations -/

section Fields

variable {α : Type} {name : String} {levels : Nat}

theorem isReadBy_needed {decoder : Decoder Json α} :
    (Field.mk name .leaf none).IsReadBy (required decoder levels) :=
  Field.isReadBy_required (isReadBy_leaf decoder) rfl levels

theorem isReadBy_flag {fallback : Bool} :
    (Field.mk name .leaf (some (.bool fallback))).IsReadBy
      (defaulted fallback Decoder.flag levels) := by
  have restored : Decoding.Responds .keeps (Decoder.flag levels (Json.bool fallback))
      (pure fallback) := Decoding.responds_self _
  exact Field.isReadBy_defaulted (isReadBy_leaf _) rfl levels restored

theorem isReadBy_optional {content : Content} {item : Decoder Json α}
    (read : content.IsReadBy (optional item)) :
    (Field.mk name content (some .null)).IsReadBy (defaulted none (optional item) levels) := by
  have restored : Decoding.Responds .keeps (optional item levels Json.null) (pure none) :=
    Decoding.responds_self _
  exact Field.isReadBy_defaulted read rfl levels restored

/-- With no level left a list is not read, not even an empty one, but a missing one is. -/
theorem isReadBy_list (kind : RecordKind) :
    (Field.mk name (.list kind) (some (.array []))).IsReadBy
      (defaulted [] (Decoder.list kind.decoder) levels) := by
  have restored : Decoding.Responds .keeps (Decoder.list kind.decoder levels (Json.array []))
      (pure []) := by
    cases levels with
    | zero => exact Decoding.responds_of_failure _
    | succ levels => exact Decoding.responds_self _
  exact Field.isReadBy_defaulted (isReadBy_content_list kind) rfl levels restored

theorem isReadBy_record (kind : RecordKind) :
    (Field.mk name (.record kind) none).IsReadBy (required kind.decoder levels) :=
  Field.isReadBy_required (isReadBy_content_record kind) rfl levels

theorem isReadBy_records (kind : RecordKind) :
    (Field.mk name (.list kind) none).IsReadBy (required (Decoder.list kind.decoder) levels) :=
  Field.isReadBy_required (isReadBy_content_list kind) rfl levels

theorem isReadBy_kind (typeName : String) :
    (Field.mk name .typeKind none).IsReadBy (required (TypeInfo.kindDecoder typeName) levels) :=
  Field.isReadBy_required (isReadBy_content_kind typeName) rfl levels

end Fields

theorem readsRecord_member : ReadsRecord RecordKind.member.fields EnumMember.decoder :=
  ⟨_, rfl, fun _ => ⟨_, .rfl,
    .next isReadBy_needed fun _ => .next isReadBy_needed fun _ => .done _⟩⟩

theorem readsRecord_enumeration : ReadsRecord RecordKind.enumeration.fields EnumShape.decoder :=
  ⟨_, rfl, fun _ => ⟨_, .rfl, .next (isReadBy_records .member) fun _ => .done _⟩⟩

theorem readsRecord_capabilities :
    ReadsRecord RecordKind.capabilities.fields Capabilities.decoder :=
  ⟨_, rfl, fun _ => ⟨_, .rfl,
    .next isReadBy_flag fun _ => .next isReadBy_flag fun _ =>
    .next isReadBy_flag fun _ => .next isReadBy_flag fun _ => .done _⟩⟩

theorem readsRecord_constructor :
    ReadsRecord RecordKind.constructor.fields Constructor.decoder :=
  ⟨_, rfl, fun _ => ⟨_, .rfl, .next isReadBy_needed fun _ => .done _⟩⟩

theorem readsRecord_setter : ReadsRecord RecordKind.setter.fields Setter.decoder :=
  ⟨_, rfl, fun _ => ⟨_, .rfl,
    .next isReadBy_needed fun _ => .next isReadBy_flag fun _ => .done _⟩⟩

theorem readsRecord_type : ReadsRecord RecordKind.type.fields TypeInfo.decoder :=
  ⟨_, TypeInfo.decoder_eq_record, fun _ => ⟨_, .rfl,
    .next isReadBy_needed fun name => .last (isReadBy_kind name)⟩⟩

theorem readsRecord_property : ReadsRecord RecordKind.property.fields PropertyInfo.decoder :=
  ⟨_, rfl, fun _ => ⟨_, .rfl,
    .next isReadBy_needed fun _ => .next (isReadBy_record .type) fun _ =>
    .next (isReadBy_optional (isReadBy_leaf _)) fun _ =>
    .next (isReadBy_optional (isReadBy_content_optional .setter)) fun _ => .done _⟩⟩

theorem readsRecord_target : ReadsRecord RecordKind.target.fields TargetType.decoder :=
  ⟨_, rfl, fun _ => ⟨_, (@List.perm_middle _ _ [_, _, _] _).symm,
    .next (isReadBy_records .property) fun _ =>
    .next isReadBy_needed fun _ => .next isReadBy_needed fun _ =>
    .next isReadBy_needed fun _ => .next (isReadBy_list .constructor) fun _ =>
    .done _⟩⟩

theorem readsRecord_config : ReadsRecord RecordKind.config.fields KeyConfig.decoder :=
  ⟨_, rfl, fun _ => ⟨_, .rfl,
    .next isReadBy_needed fun _ =>
    .next (isReadBy_optional (isReadBy_leaf _)) fun _ =>
    .next isReadBy_flag fun _ => .done _⟩⟩

theorem readsRecord_declaration :
    ReadsRecord RecordKind.declaration.fields KeyDeclaration.decoder :=
  ⟨_, rfl, fun _ => ⟨_, .rfl,
    .next (isReadBy_record .target) fun _ => .next (isReadBy_record .config) fun _ =>
    .done _⟩⟩

theorem RecordKind.readsRecord (kind : RecordKind) : ReadsRecord kind.fields kind.decoder := by
  cases kind with
  | declaration => exact readsRecord_declaration
  | config => exact readsRecord_config
  | target => exact readsRecord_target
  | property => exact readsRecord_property
  | type => exact readsRecord_type
  | setter => exact readsRecord_setter
  | constructor => exact readsRecord_constructor
  | capabilities => exact readsRecord_capabilities
  | enumeration => exact readsRecord_enumeration
  | member => exact readsRecord_member

end CompositeKey
