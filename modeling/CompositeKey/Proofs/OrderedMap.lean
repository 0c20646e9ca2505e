import CompositeKey.OrderedMap
import Mathlib.Data.List.Induction

/-!
# Maps and the lists of their entries

A map holds what its entries say, and it is the map that its entries make when they
are inserted in order.  A key that is inserted several times stands where it came first,
with the value that came last.
-/

set_option autoImplicit false

namespace CompositeKey

namespace OrderedMap

variable {κ ν : Type}

theorem ext {first second : OrderedMap κ ν} (same : first.entries = second.entries) :
    first = second := by
  cases first
  cases second
  cases same
  rfl

variable [DecidableEq κ]

theorem lookupEntry_of_mem {entries : List (κ × ν)} (distinct : (entries.map Prod.fst).Nodup)
    {entry : κ × ν} (member : entry ∈ entries) :
    lookupEntry entry.1 entries = some entry.2 := by
  induction entries with
  | nil => cases member
  | cons first rest ih =>
      rw [List.map_cons, List.nodup_cons] at distinct
      obtain same | later := List.mem_cons.mp member
      · rw [same, lookupEntry, if_pos rfl]
      · have other : first.1 ≠ entry.1 := fun same =>
          distinct.1 (same ▸ List.mem_map_of_mem later)
        rw [lookupEntry, if_neg other]
        exact ih distinct.2 later

theorem get?_of_mem {map : OrderedMap κ ν} {entry : κ × ν} (member : entry ∈ map.entries) :
    map.get? entry.1 = some entry.2 :=
  lookupEntry_of_mem map.distinct member

theorem insertEntry_of_absent {key : κ} (value : ν) {entries : List (κ × ν)}
    (absent : key ∉ entries.map Prod.fst) :
    insertEntry key value entries = entries ++ [(key, value)] := by
  induction entries with
  | nil => rfl
  | cons first rest ih =>
      rw [List.map_cons, List.mem_cons, not_or] at absent
      rw [insertEntry, if_neg (Ne.symm absent.1), ih absent.2, List.cons_append]

theorem entries_foldl_insert {pairs : List (κ × ν)} {map : OrderedMap κ ν}
    (distinct : ((map.entries ++ pairs).map Prod.fst).Nodup) :
    (pairs.foldl (fun map pair => map.insert pair.1 pair.2) map).entries =
      map.entries ++ pairs := by
  induction pairs generalizing map with
  | nil => rw [List.foldl_nil, List.append_nil]
  | cons pair rest ih =>
      have absent : pair.1 ∉ map.entries.map Prod.fst := by
        intro member
        rw [List.map_append, List.map_cons] at distinct
        exact (List.nodup_append.mp distinct).2.2 _ member _ List.mem_cons_self rfl
      have inserted : (map.insert pair.1 pair.2).entries = map.entries ++ [pair] :=
        insertEntry_of_absent pair.2 absent
      rw [List.foldl_cons, ih, inserted, List.append_assoc]
      · rfl
      · rw [inserted, List.append_assoc]
        exact distinct

theorem ofList_entries (map : OrderedMap κ ν) : ofList map.entries = map :=
  ext (entries_foldl_insert map.distinct)

theorem ofList_concat (pairs : List (κ × ν)) (pair : κ × ν) :
    ofList (pairs ++ [pair]) = (ofList pairs).insert pair.1 pair.2 := by
  rw [ofList, List.foldl_append]
  rfl

theorem keys_insert (map : OrderedMap κ ν) (key : κ) (value : ν) :
    (map.insert key value).keys = if key ∈ map.keys then map.keys else map.keys ++ [key] :=
  map_fst_insertEntry key value map.entries

theorem keys_ofList (pairs : List (κ × ν)) :
    (ofList pairs).keys = (pairs.map Prod.fst).eraseDups := by
  induction pairs using List.reverseRecOn with
  | nil => rfl
  | append_singleton pairs last ih =>
      rw [ofList_concat, keys_insert, ih, List.map_append, List.eraseDups_append]
      by_cases met : last.1 ∈ pairs.map Prod.fst
      · rw [if_pos (List.mem_eraseDups.mpr met)]
        simp [List.removeAll, met]
      · rw [if_neg (mt List.mem_eraseDups.mp met)]
        simp [List.removeAll, met, List.eraseDups_cons]

theorem get?_ofList (pairs : List (κ × ν)) (key : κ) :
    (ofList pairs).get? key =
      ((pairs.filter fun pair => pair.1 = key).getLast?).map Prod.snd := by
  induction pairs using List.reverseRecOn with
  | nil => rfl
  | append_singleton pairs last ih =>
      rw [ofList_concat, get?_insert, ih, List.filter_append]
      by_cases same : last.1 = key
      · simp [same]
      · simp [same]

end OrderedMap

end CompositeKey
