import CompositeKey.Loading
import CompositeKey.Proofs.Document.Response
import CompositeKey.Proofs.Target.Keyed

/-!
# Declarations that were loaded

What holds of every value that an item decoder gives holds of every item of a
loaded list.  Every loaded declaration has its properties under their names.
-/

set_option autoImplicit false

namespace CompositeKey

def Decoder.Gives {δ α : Type} (decoder : Decoder δ α) (holds : α → Prop) : Prop :=
  ∀ depth document links value left,
    (decoder depth document).run links = some (value, left) → holds value

namespace Decoder.Gives

variable {δ α : Type} {decoder : Decoder δ α} {holds : α → Prop}

theorem record [Document δ] {names : List String} {read : Nat → List (Option δ) → Decoding α}
    (gives : ∀ depth fields links value left,
      (read depth fields).run links = some (value, left) → holds value) :
    (Decoder.record names read).Gives holds := by
  intro depth document links value left run
  cases depth with
  | zero => cases run
  | succ depth =>
      obtain ⟨fields, middle, _, rest⟩ := Decoding.bind_eq_some_iff.mp run
      exact gives depth fields middle value left rest

theorem required (gives : decoder.Gives holds) {depth links left : Nat} {field : Option δ}
    {value : α} (run : (Decoder.required decoder depth field).run links = some (value, left)) :
    holds value := by
  cases field with
  | none => cases run
  | some document => exact gives depth document links value left run

theorem mapM (gives : decoder.Gives holds) {depth links left : Nat} {items : List δ}
    {values : List α} (run : (items.mapM (decoder depth)).run links = some (values, left)) :
    ∀ value ∈ values, holds value := by
  induction items generalizing links values with
  | nil =>
      cases run
      simp
  | cons item rest ih =>
      rw [List.mapM_cons] at run
      obtain ⟨first, middle, begun, behind⟩ := Decoding.bind_eq_some_iff.mp run
      obtain ⟨others, last, followed, ended⟩ := Decoding.bind_eq_some_iff.mp behind
      cases ended
      exact List.forall_mem_cons.mpr ⟨gives depth item links first middle begun, ih followed⟩

theorem list [Document δ] (gives : decoder.Gives holds) :
    (Decoder.list decoder).Gives fun values => ∀ value ∈ values, holds value := by
  intro depth document links values left run
  cases depth with
  | zero => cases run
  | succ depth =>
      obtain ⟨target, _, _, rest⟩ := Decoding.bind_eq_some_iff.mp run
      obtain ⟨items, _, _, mapped⟩ := Decoding.bind_eq_some_iff.mp rest
      exact gives.mapM mapped

end Decoder.Gives

section Tables

variable {δ : Type} [Document δ]

theorem gives_targetType :
    (TargetType.decoder : Decoder δ TargetType).Gives fun target =>
      KeyedByName target.properties := by
  refine .record ?_
  intro depth fields links target left run
  split at run
  · obtain ⟨properties, _, _, run⟩ := Decoding.bind_eq_some_iff.mp run
    obtain ⟨_, _, _, run⟩ := Decoding.bind_eq_some_iff.mp run
    obtain ⟨_, _, _, run⟩ := Decoding.bind_eq_some_iff.mp run
    obtain ⟨_, _, _, run⟩ := Decoding.bind_eq_some_iff.mp run
    obtain ⟨_, _, _, run⟩ := Decoding.bind_eq_some_iff.mp run
    cases run
    exact keyedByName_propertyTable properties
  · cases run

theorem gives_keyDeclaration :
    (KeyDeclaration.decoder : Decoder δ KeyDeclaration).Gives fun declaration =>
      KeyedByName declaration.target.properties := by
  refine .record ?_
  intro depth fields links declaration left run
  split at run
  · obtain ⟨target, _, decoded, run⟩ := Decoding.bind_eq_some_iff.mp run
    obtain ⟨_, _, _, run⟩ := Decoding.bind_eq_some_iff.mp run
    cases run
    exact gives_targetType.required decoded
  · cases run

theorem keyedByName_of_document {levels : Nat} {links : δ → Nat} {parsed : Option δ}
    {declarations : List KeyDeclaration}
    (decoded : (parsed.bind fun document => declarationsOf? levels (links document) document) =
      some declarations) :
    ∀ declaration ∈ declarations, KeyedByName declaration.target.properties := by
  obtain ⟨document, _, run⟩ := Option.bind_eq_some_iff.mp decoded
  obtain ⟨⟨values, left⟩, listed, same⟩ := Option.map_eq_some_iff.mp run
  cases same
  exact gives_keyDeclaration.list levels document (links document) values left listed

end Tables

theorem keyedByName_of_loadJson {text : String} {declarations : List KeyDeclaration}
    (loaded : loadJson text = .ok declarations) :
    ∀ declaration ∈ declarations, KeyedByName declaration.target.properties := by
  unfold loadJson at loaded
  split at loaded
  · rename_i found decoded
    cases loaded
    exact keyedByName_of_document decoded
  · cases loaded

theorem keyedByName_of_loadYaml {text : String} {declarations : List KeyDeclaration}
    (loaded : loadYaml text = .ok declarations) :
    ∀ declaration ∈ declarations, KeyedByName declaration.target.properties := by
  unfold loadYaml at loaded
  split at loaded
  · rename_i found decoded
    cases loaded
    exact keyedByName_of_document decoded
  · cases loaded

/-- Loading a file never gives a property under a name it does not have. -/
theorem keyedByName_of_loadFile {name : String} {content : Option ByteArray}
    {declarations : List KeyDeclaration} (loaded : loadFile name content = .ok declarations) :
    ∀ declaration ∈ declarations, KeyedByName declaration.target.properties := by
  unfold loadFile at loaded
  split at loaded
  · cases loaded
  · simp only at loaded
    split at loaded
    · exact keyedByName_of_loadJson loaded
    · split at loaded
      · exact keyedByName_of_loadYaml loaded
      · cases loaded

end CompositeKey
