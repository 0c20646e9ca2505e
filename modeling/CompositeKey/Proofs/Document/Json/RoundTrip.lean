import CompositeKey.Document.Json.Printer
import CompositeKey.Document.Json.Reader
import CompositeKey.Proofs.Document.Json.Scanning

/-!
# Reading values that were written

A value is written as its tokens, with blanks between them or without.  The tokens
are read back from the text, and the value from its tokens.
-/

set_option autoImplicit false

namespace CompositeKey

namespace Json

/-- Induction on a value.  What holds of the values in an array or an object may be
used for the whole. -/
@[elab_as_elim, induction_eliminator]
theorem induct {motive : Json → Prop} (null : motive .null)
    (bool : ∀ value, motive (.bool value)) (integer : ∀ value, motive (.integer value))
    (decimal : ∀ literal, motive (.decimal literal)) (string : ∀ text, motive (.string text))
    (array : ∀ items, (∀ item ∈ items, motive item) → motive (.array items))
    (object : ∀ fields, (∀ field ∈ fields, motive field.2) → motive (.object fields)) :
    ∀ value, motive value
  | .null => null
  | .bool value => bool value
  | .integer value => integer value
  | .decimal literal => decimal literal
  | .string text => string text
  | .array items => array items fun item _ =>
      induct null bool integer decimal string array object item
  | .object fields => object fields fun field _ =>
      induct null bool integer decimal string array object field.2
termination_by value => sizeOf value
decreasing_by
  · have smaller := List.sizeOf_lt_of_mem ‹item ∈ items›
    simp only [Json.array.sizeOf_spec]
    omega
  · have smaller := List.sizeOf_lt_of_mem ‹field ∈ fields›
    have inner : sizeOf field = 1 + sizeOf field.1 + sizeOf field.2 := rfl
    simp only [Json.object.sizeOf_spec]
    omega

def memberTokens (field : JsonText × Json) : List JsonToken :=
  .string field.1 :: .colon :: field.2.tokens

theorem itemTokens_cons (item : Json) (rest : List Json) :
    itemTokens (item :: rest) =
      item.tokens ++ rest.flatMap fun other => .comma :: other.tokens := by
  induction rest generalizing item with
  | nil => simp [itemTokens]
  | cons next others ih =>
      rw [itemTokens, ih, List.flatMap_cons]
      · rfl
      · simp

theorem fieldTokens_cons (field : JsonText × Json) (rest : List (JsonText × Json)) :
    fieldTokens (field :: rest) =
      memberTokens field ++ rest.flatMap fun other => .comma :: memberTokens other := by
  induction rest generalizing field with
  | nil => simp [fieldTokens, memberTokens]
  | cons next others ih =>
      rw [fieldTokens, ih, List.flatMap_cons]
      · rfl
      · simp

theorem exists_tokens_eq_cons (value : Json) :
    ∃ token rest, value.tokens = token :: rest ∧ token ≠ .closeArray := by
  cases value <;> simp [tokens]

end Json

namespace JsonState

def Reaches (state : JsonState) (tokens : List JsonToken) (after : JsonState) : Prop :=
  tokens.foldlM step state = some after

namespace Reaches

variable {state middle after : JsonState} {tokens others : List JsonToken}
  {frames : List JsonFrame}

theorem nil (state : JsonState) : Reaches state [] state := rfl

theorem cons {token : JsonToken} (begins : step state token = some middle)
    (behind : Reaches middle tokens after) : Reaches state (token :: tokens) after := by
  rw [Reaches, List.foldlM_cons, begins]
  exact behind

theorem append (first : Reaches state tokens middle) (second : Reaches middle others after) :
    Reaches state (tokens ++ others) after := by
  rw [Reaches, List.foldlM_append, first]
  exact second

theorem firstElement {value : Json}
    (read : Reaches (.expectValue (.array [] :: frames)) value.tokens after) :
    Reaches (.firstElement frames) value.tokens after := by
  obtain ⟨token, rest, begun, opens⟩ := value.exists_tokens_eq_cons
  have same : step (.firstElement frames) token =
      step (.expectValue (.array [] :: frames)) token := by
    cases token with
    | closeArray => exact absurd rfl opens
    | _ => rfl
  rw [begun, Reaches, List.foldlM_cons] at read ⊢
  rw [same]
  exact read

def IsRead (value : Json) : Prop :=
  ∀ frames, Reaches (.expectValue frames) value.tokens (ofValue value frames)

theorem items {items : List Json} (read : ∀ item ∈ items, IsRead item) (before : List Json) :
    Reaches (.afterElement before frames) (items.flatMap fun item => .comma :: item.tokens)
      (.afterElement (items.reverse ++ before) frames) := by
  induction items generalizing before with
  | nil => exact nil _
  | cons item rest ih =>
      obtain ⟨first, others⟩ := List.forall_mem_cons.mp read
      have behind := ih others (item :: before)
      rw [List.flatMap_cons, List.reverse_cons, List.append_assoc]
      exact (cons rfl (first (.array before :: frames))).append behind

theorem member {field : JsonText × Json} (read : IsRead field.2)
    (before : List (JsonText × Json)) :
    Reaches (.expectKey before frames) (Json.memberTokens field)
      (.afterField (field :: before) frames) :=
  cons rfl (cons rfl (read _))

theorem fields {fields : List (JsonText × Json)} (read : ∀ field ∈ fields, IsRead field.2)
    (before : List (JsonText × Json)) :
    Reaches (.afterField before frames)
      (fields.flatMap fun field => .comma :: Json.memberTokens field)
      (.afterField (fields.reverse ++ before) frames) := by
  induction fields generalizing before with
  | nil => exact nil _
  | cons field rest ih =>
      obtain ⟨first, others⟩ := List.forall_mem_cons.mp read
      have behind := ih others (field :: before)
      rw [List.flatMap_cons, List.reverse_cons, List.append_assoc]
      exact (cons rfl (member first before)).append behind

theorem array {items : List Json} (read : ∀ item ∈ items, IsRead item) :
    IsRead (.array items) := by
  intro frames
  cases items with
  | nil => exact cons rfl (cons rfl (nil _))
  | cons item rest =>
      obtain ⟨first, others⟩ := List.forall_mem_cons.mp read
      have closes : step (.afterElement (rest.reverse ++ [item]) frames) .closeArray =
          some (ofValue (.array (item :: rest)) frames) := by
        rw [step, List.reverse_append, List.reverse_reverse]
        rfl
      rw [Json.tokens, Json.itemTokens_cons]
      have inner := (first (.array [] :: frames)).firstElement.append (Reaches.items others [item])
      exact (cons rfl inner).append (cons closes (nil _))

theorem object {fields : List (JsonText × Json)} (read : ∀ field ∈ fields, IsRead field.2) :
    IsRead (.object fields) := by
  intro frames
  cases fields with
  | nil => exact cons rfl (cons rfl (nil _))
  | cons field rest =>
      obtain ⟨first, others⟩ := List.forall_mem_cons.mp read
      have closes : step (.afterField (rest.reverse ++ [field]) frames) .closeObject =
          some (ofValue (.object (field :: rest)) frames) := by
        rw [step, List.reverse_append, List.reverse_reverse]
        rfl
      have begun : Reaches (.firstKey frames) (Json.memberTokens field)
          (.afterField [field] frames) := cons rfl (cons rfl (first _))
      rw [Json.tokens, Json.fieldTokens_cons]
      exact (cons rfl (begun.append (Reaches.fields others [field]))).append (cons closes (nil _))

theorem value (value : Json) : IsRead value := by
  induction value with
  | array items ih => exact array ih
  | object fields ih => exact object ih
  | _ => exact fun frames => cons rfl (nil _)

end Reaches

end JsonState

theorem Json.ofTokens?_tokens (value : Json) : ofTokens? value.tokens = some value := by
  have read := JsonState.Reaches.value value []
  rw [JsonState.Reaches] at read
  rw [ofTokens?, read]
  rfl

/-! ## Reading a text -/

namespace Json

def NoDecimal (value : Json) : Prop := ∀ literal, JsonToken.decimal literal ∉ value.tokens

theorem decimal_mem_array {literal : String} {items : List Json} :
    JsonToken.decimal literal ∈ (array items).tokens ↔
      ∃ item ∈ items, JsonToken.decimal literal ∈ item.tokens := by
  cases items with
  | nil => simp [tokens, itemTokens]
  | cons first rest => simp [tokens, itemTokens_cons]

theorem decimal_mem_object {literal : String} {fields : List (JsonText × Json)} :
    JsonToken.decimal literal ∈ (object fields).tokens ↔
      ∃ field ∈ fields, JsonToken.decimal literal ∈ field.2.tokens := by
  cases fields with
  | nil => simp [tokens, fieldTokens]
  | cons first rest => simp [tokens, fieldTokens_cons, memberTokens]

@[simp]
theorem noDecimal_array {items : List Json} :
    (array items).NoDecimal ↔ ∀ item ∈ items, item.NoDecimal := by
  simp only [NoDecimal, decimal_mem_array, not_exists, not_and]
  exact ⟨fun none item member literal => none literal item member,
    fun none literal item member => none item member literal⟩

theorem noDecimal_object {fields : List (JsonText × Json)} :
    (object fields).NoDecimal ↔ ∀ field ∈ fields, field.2.NoDecimal := by
  simp only [NoDecimal, decimal_mem_object, not_exists, not_and]
  exact ⟨fun none field member literal => none literal field member,
    fun none literal field member => none field member literal⟩

@[simp]
theorem noDecimal_record {fields : List (String × Json)} :
    (record fields).NoDecimal ↔ ∀ field ∈ fields, field.2.NoDecimal := by
  rw [record, noDecimal_object, List.forall_mem_map]

@[simp]
theorem noDecimal_null : null.NoDecimal := by
  simp [NoDecimal, tokens]

@[simp]
theorem noDecimal_bool (value : Bool) : (bool value).NoDecimal := by
  simp [NoDecimal, tokens]

@[simp]
theorem noDecimal_integer (value : Int) : (integer value).NoDecimal := by
  simp [NoDecimal, tokens]

@[simp]
theorem noDecimal_ofString (text : String) : (ofString text).NoDecimal := by
  simp [NoDecimal, ofString, tokens]

theorem noDecimal_ofOption {α : Type} {encode : α → Json}
    (exact : ∀ value, (encode value).NoDecimal) (value : Option α) :
    (ofOption encode value).NoDecimal := by
  cases value with
  | none => exact noDecimal_null
  | some value => exact exact value

open JsonToken (ReadsAs isBlank)

section Containers

variable {gap inner : List Char} (blank : ∀ c ∈ gap, isBlank c = true)
  (blankInner : ∀ c ∈ inner, isBlank c = true)

include blank blankInner

theorem readsAs_array (write : Json → List Char) {first : Json} {rest : List Json}
    (read : ∀ item ∈ first :: rest, ReadsAs (write item) item.tokens) :
    ReadsAs
      ('[' :: gap ++ write first ++ (rest.flatMap fun item => ',' :: gap ++ write item) ++ inner ++
        [']'])
      (array (first :: rest)).tokens := by
  have opens : JsonToken.punctuation? '[' = some .openArray := rfl
  have closes : JsonToken.punctuation? ']' = some .closeArray := rfl
  rw [tokens, itemTokens_cons]
  exact .enclosed opens closes blank blankInner read

theorem readsAs_object (write : Json → List Char) {first : JsonText × Json}
    {rest : List (JsonText × Json)} {behind : List Char}
    (blankBehind : ∀ c ∈ behind, isBlank c = true)
    (read : ∀ field ∈ first :: rest, ReadsAs (write field.2) field.2.tokens) :
    ReadsAs
      ('{' :: gap ++ (quoted first.1 ++ ':' :: (behind ++ write first.2)) ++
        (rest.flatMap fun field =>
          ',' :: gap ++ (quoted field.1 ++ ':' :: (behind ++ write field.2))) ++ inner ++ ['}'])
      (object (first :: rest)).tokens := by
  have members : ∀ field ∈ first :: rest,
      ReadsAs (quoted field.1 ++ ':' :: (behind ++ write field.2)) (memberTokens field) := by
    intro field member
    exact (read field member).member field.1 blankBehind
  have opens : JsonToken.punctuation? '{' = some .openObject := rfl
  have closes : JsonToken.punctuation? '}' = some .closeObject := rfl
  rw [tokens, fieldTokens_cons]
  exact .enclosed opens closes blank blankInner members

end Containers

def compactChars (value : Json) : List Char := value.tokens.flatMap JsonToken.text

theorem readsAs_compactChars (value : Json) (exact : value.NoDecimal) :
    ReadsAs value.compactChars value.tokens := by
  have noBlank : ∀ c ∈ ([] : List Char), isBlank c = true :=
    List.forall_mem_nil _
  induction value with
  | array items ih =>
      have read : ∀ item ∈ items, ReadsAs item.compactChars item.tokens :=
        fun item member => ih item member (noDecimal_array.mp exact item member)
      cases items with
      | nil => exact .cons rfl (.cons rfl .nil)
      | cons first rest =>
          have whole := readsAs_array noBlank noBlank compactChars read
          simpa [compactChars, tokens, itemTokens_cons, List.flatMap_assoc, JsonToken.text]
            using whole
  | object fields ih =>
      have read : ∀ field ∈ fields, ReadsAs field.2.compactChars field.2.tokens :=
        fun field member => ih field member (noDecimal_object.mp exact field member)
      cases fields with
      | nil => exact .cons rfl (.cons rfl .nil)
      | cons first rest =>
          have whole := readsAs_object noBlank noBlank compactChars noBlank read
          simpa [compactChars, tokens, fieldTokens_cons, memberTokens, List.flatMap_assoc,
            JsonToken.text] using whole
  | decimal literal => exact absurd List.mem_cons_self (exact literal)
  | null => exact .null
  | bool value => simpa [compactChars, tokens] using ReadsAs.bool value
  | integer value => simpa [compactChars, tokens] using ReadsAs.integer value
  | string value => simpa [compactChars, tokens] using ReadsAs.string value

theorem isBlank_of_mem_lineBreak (level : Nat) : ∀ c ∈ lineBreak level, isBlank c = true := by
  intro c member
  obtain same | ⟨-, same⟩ := List.mem_cons.mp member |>.imp_right List.mem_replicate.mp <;>
    rw [same] <;> rfl

theorem prettyItems_eq (level : Nat) (items : List Json) :
    prettyItems level items =
      items.flatMap fun item => ',' :: lineBreak level ++ prettyChars level item := by
  induction items with
  | nil => rw [prettyItems, List.flatMap_nil]
  | cons item rest ih => rw [prettyItems, ih, List.flatMap_cons]

theorem prettyFields_eq (level : Nat) (fields : List (JsonText × Json)) :
    prettyFields level fields =
      fields.flatMap fun field =>
        ',' :: lineBreak level ++
          (quoted field.1 ++ ':' :: ([' '] ++ prettyChars level field.2)) := by
  induction fields with
  | nil => rw [prettyFields, List.flatMap_nil]
  | cons field rest ih =>
      rw [prettyFields, ih, List.flatMap_cons]
      simp

theorem readsAs_prettyChars (value : Json) (exact : value.NoDecimal) (level : Nat) :
    ReadsAs (prettyChars level value) value.tokens := by
  induction value generalizing level with
  | array items ih =>
      have read : ∀ item ∈ items, ReadsAs (prettyChars (level + 1) item) item.tokens :=
        fun item member => ih item member (noDecimal_array.mp exact item member) (level + 1)
      cases items with
      | nil => exact .cons rfl (.cons rfl .nil)
      | cons first rest =>
          rw [prettyChars, prettyItems_eq]
          exact readsAs_array (isBlank_of_mem_lineBreak (level + 1))
            (isBlank_of_mem_lineBreak level) (prettyChars (level + 1)) read
  | object fields ih =>
      have read : ∀ field ∈ fields, ReadsAs (prettyChars (level + 1) field.2) field.2.tokens :=
        fun field member => ih field member (noDecimal_object.mp exact field member) (level + 1)
      cases fields with
      | nil => exact .cons rfl (.cons rfl .nil)
      | cons first rest =>
          have space : ∀ c ∈ [' '], isBlank c = true := by simp [isBlank]
          have whole := readsAs_object (isBlank_of_mem_lineBreak (level + 1))
            (isBlank_of_mem_lineBreak level) (prettyChars (level + 1)) space read
          rw [prettyChars, prettyFields_eq]
          simpa using whole
  | decimal literal => exact absurd List.mem_cons_self (exact literal)
  | null => exact .null
  | bool value => exact .bool value
  | integer value => exact .integer value
  | string value => exact .string value

theorem parse?_of_readsAs {text : List Char} {value : Json} (read : ReadsAs text value.tokens) :
    parse? (String.ofList text) = some value := by
  have tokens := read [] runEnds_nil
  rw [List.append_nil, JsonToken.ofText, Option.map_some, List.append_nil] at tokens
  rw [parse?, String.toList_ofList, tokens]
  exact ofTokens?_tokens value

theorem parse?_compact {value : Json} (exact : value.NoDecimal) :
    parse? value.compact = some value :=
  parse?_of_readsAs (readsAs_compactChars value exact)

theorem parse?_pretty {value : Json} (exact : value.NoDecimal) :
    parse? value.pretty = some value :=
  parse?_of_readsAs (readsAs_prettyChars value exact 0)

end Json

end CompositeKey
