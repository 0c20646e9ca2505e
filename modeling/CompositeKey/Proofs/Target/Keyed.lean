import CompositeKey.Declaration.Decoder
import CompositeKey.Proofs.OrderedMap

/-!
# Property tables under their own names

Adding a property to a target type, and reading a list of them from a document,
leave every property under the name it has itself.
-/

set_option autoImplicit false

namespace CompositeKey

/-- What the table holds under a name is a property of that name. -/
def KeyedByName (table : OrderedMap String PropertyInfo) : Prop :=
  ∀ name property, table.get? name = some property → property.name = name

namespace KeyedByName

variable {table : OrderedMap String PropertyInfo}

theorem empty : KeyedByName .empty := by
  intro name property found
  cases found

theorem insert (keyed : KeyedByName table) (property : PropertyInfo) :
    KeyedByName (table.insert property.name property) := by
  intro name other found
  rw [OrderedMap.get?_insert] at found
  split at found
  · rename_i same
    rw [← Option.some.inj found]
    exact same
  · exact keyed name other found

theorem foldl_insert (keyed : KeyedByName table) (properties : List PropertyInfo) :
    KeyedByName ((properties.map fun property => (property.name, property)).foldl
      (fun map pair => map.insert pair.1 pair.2) table) := by
  induction properties generalizing table with
  | nil => exact keyed
  | cons property rest ih => exact ih (keyed.insert property)

end KeyedByName

theorem keyedByName_ofName (name : String) : KeyedByName (TargetType.ofName name).properties :=
  .empty

theorem keyedByName_withProperty {target : TargetType} (keyed : KeyedByName target.properties)
    (property : PropertyInfo) : KeyedByName (target.withProperty property).properties :=
  keyed.insert property

theorem keyedByName_propertyTable (properties : List PropertyInfo) :
    KeyedByName (propertyTable properties) :=
  KeyedByName.empty.foldl_insert properties

theorem KeyedByName.propertyTable_values {table : OrderedMap String PropertyInfo}
    (keyed : KeyedByName table) : propertyTable table.values = table := by
  have named : table.values.map (fun property => (property.name, property)) = table.entries := by
    rw [OrderedMap.values, List.map_map]
    refine (List.map_congr_left ?_).trans (List.map_id _)
    intro entry member
    exact Prod.ext (keyed entry.1 entry.2 (OrderedMap.get?_of_mem member)) rfl
  rw [propertyTable, named, OrderedMap.ofList_entries]

end CompositeKey
