import CompositeKey.Proofs.Declaration.Interchange

/-!
# Property tables that are read and built

A list of properties that is read from a document makes the table that adding them one by
one makes.  It holds each name once, where it comes first in the list, with the property
that comes last; and it is told by its own list of properties.
-/

set_option autoImplicit false

namespace CompositeKey

theorem foldl_withProperty (target : TargetType) (properties : List PropertyInfo) :
    properties.foldl TargetType.withProperty target =
      { target with
        properties := properties.foldl (fun table property => table.insert property.name property)
          target.properties } := by
  induction properties generalizing target with
  | nil => rfl
  | cons property rest ih => exact ih (target.withProperty property)

theorem foldl_withProperty_empty (target : TargetType) (properties : List PropertyInfo) :
    properties.foldl TargetType.withProperty { target with properties := .empty } =
      { target with properties := propertyTable properties } := by
  rw [foldl_withProperty, propertyTable, OrderedMap.ofList, List.foldl_map]

section Table

variable (properties : List PropertyInfo)

theorem keys_propertyTable :
    (propertyTable properties).keys = (properties.map PropertyInfo.name).eraseDups := by
  rw [propertyTable, OrderedMap.keys_ofList, List.map_map]
  rfl

theorem get?_propertyTable (name : String) :
    (propertyTable properties).get? name =
      (properties.filter fun property => property.name = name).getLast? := by
  rw [propertyTable, OrderedMap.get?_ofList, List.filter_map, List.getLast?_map, Option.map_map]
  exact congrFun Option.map_id _

theorem KeyedByName.name_of_mem {table : OrderedMap String PropertyInfo}
    (keyed : KeyedByName table) {entry : String × PropertyInfo} (member : entry ∈ table.entries) :
    entry.1 = entry.2.name :=
  (keyed entry.1 entry.2 (OrderedMap.get?_of_mem member)).symm

end Table

/-- The table that is read from a list of properties is the one that adding them to a target
type without properties makes.  Names stand in it once and in the order in which they come
first, each with the last property that has it.  Written and read again the table is the
same. -/
theorem listed_properties_make_built_table (target : TargetType)
    (properties : List PropertyInfo) :
    let built := properties.foldl TargetType.withProperty { target with properties := .empty }
    (∀ levels links, (target.listedJson properties).depth ≤ levels →
      Decoder.run TargetType.decoder levels links (target.listedJson properties) = some built) ∧
    (∀ entry ∈ built.properties.entries, entry.1 = entry.2.name) ∧
    built.properties.keys.Nodup ∧
    built.properties.keys = (properties.map PropertyInfo.name).eraseDups ∧
    (∀ name, built.property? name =
      (properties.filter fun property => property.name = name).getLast?) ∧
    ∀ levels links, built.toJson.depth ≤ levels →
      Decoder.run TargetType.decoder levels links built.toJson = some built := by
  simp only [foldl_withProperty_empty]
  have keyed := keyedByName_propertyTable properties
  refine ⟨?_, fun _ => keyed.name_of_mem, (propertyTable properties).distinct,
    keys_propertyTable properties, get?_propertyTable properties, ?_⟩
  · intro levels links shallow
    rw [Decoder.run, restores_listedJson target properties levels shallow]
    rfl
  · intro levels links shallow
    rw [Decoder.run, restores_target keyed levels shallow]
    rfl

def redeclaredProperties : List PropertyInfo :=
  [.ofType "Id" .plainGuid, .ofType "Tag" .plainString, (.writeOnly (.ofType "Id" .plainString)),
    .ofType "id" .plainGuid]

theorem redeclared_properties_make_built_table :
    let target := (TargetType.ofName "Key").withShape .structType
    let built := ((target.withProperty (.writeOnly (.ofType "Id" .plainString))).withProperty
      (.ofType "Tag" .plainString)).withProperty (.ofType "id" .plainGuid)
    Decoder.run TargetType.decoder 5 0 (target.listedJson redeclaredProperties) = some built ∧
      built.properties.keys = ["Id", "Tag", "id"] ∧
      Decoder.run TargetType.decoder 5 0 built.toJson = some built := by
  intro target built
  obtain ⟨listed, -, -, -, -, written⟩ :=
    listed_properties_make_built_table target redeclaredProperties
  have same : redeclaredProperties.foldl TargetType.withProperty
      { target with properties := .empty } = built := by decide +kernel
  rw [same] at listed written
  exact ⟨listed 5 0 (by decide +kernel), by decide +kernel, written 5 0 (by decide +kernel)⟩

end CompositeKey
