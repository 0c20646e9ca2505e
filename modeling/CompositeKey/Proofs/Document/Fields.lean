import CompositeKey.Document.Basic
import Mathlib.Data.List.Nodup
import Mathlib.Logic.Function.Basic

/-!
# The fields of a record

What is selected of the fields of a record depends on the values under each name only:
not on the order of the fields, and not on fields with other names.  Values in order are
selected like fields that have the names in order.
-/

set_option autoImplicit false

namespace CompositeKey

variable {δ : Type}

def heldValues (fields : List (String × δ)) (name : String) : List δ :=
  (fields.filter fun field => field.1 == name).map Prod.snd

theorem occurrences_eq_length (fields : List (String × δ)) (name : String) :
    occurrences fields name = (heldValues fields name).length := by
  rw [heldValues, List.length_map, occurrences, List.countP_eq_length_filter]

theorem fieldNamed?_eq_head? (fields : List (String × δ)) (name : String) :
    fieldNamed? fields name = (heldValues fields name).head? := by
  rw [heldValues, List.head?_map, List.head?_filter, fieldNamed?]

theorem heldValues_append (front back : List (String × δ)) (name : String) :
    heldValues (front ++ back) name = heldValues front name ++ heldValues back name := by
  rw [heldValues, List.filter_append, List.map_append]
  rfl

theorem heldValues_cons_self (name : String) (value : δ) (rest : List (String × δ)) :
    heldValues ((name, value) :: rest) name = value :: heldValues rest name := by
  simp [heldValues]

theorem heldValues_cons_of_ne {name other : String} (different : other ≠ name) (value : δ)
    (rest : List (String × δ)) :
    heldValues ((other, value) :: rest) name = heldValues rest name := by
  simp [heldValues, different]

theorem heldValues_of_absent {fields : List (String × δ)} {name : String}
    (absent : name ∉ fields.map Prod.fst) : heldValues fields name = [] := by
  rw [heldValues, List.filter_eq_nil_iff.mpr, List.map_nil]
  intro field member same
  exact absent (List.mem_map.mpr ⟨field, member, eq_of_beq same⟩)

theorem heldValues_option (name : String) (value : Option δ) :
    heldValues (value.toList.map (name, ·)) name = value.toList := by
  cases value with
  | none => rfl
  | some value => exact heldValues_cons_self name value []

theorem heldValues_option_of_ne {name other : String} (different : other ≠ name)
    (value : Option δ) : heldValues (value.toList.map (other, ·)) name = [] := by
  cases value with
  | none => rfl
  | some value => exact heldValues_cons_of_ne different value []

/-- The order of fields shows only where a name comes more than once. -/
theorem heldValues_of_perm {old new : List (String × δ)} (perm : old.Perm new) {name : String}
    (once : (heldValues old name).length ≤ 1) : heldValues old name = heldValues new name := by
  have permuted : (heldValues old name).Perm (heldValues new name) := (perm.filter _).map _
  match held : heldValues old name with
  | [] =>
      rw [held] at permuted
      exact permuted.nil_eq
  | [value] =>
      rw [held] at permuted
      exact permuted.singleton_eq
  | _ :: _ :: _ =>
      rw [held] at once
      simp at once

theorem selectFields?_eq_some_iff {names : List String} {fields : List (String × δ)}
    {values : List (Option δ)} :
    selectFields? names fields = some values ↔
      (∀ name ∈ names, (heldValues fields name).length ≤ 1) ∧
        names.map (fun name => (heldValues fields name).head?) = values := by
  have named : names.map (fieldNamed? fields) =
      names.map fun name => (heldValues fields name).head? :=
    List.map_congr_left fun name _ => fieldNamed?_eq_head? fields name
  simp only [selectFields?, List.all_eq_true, decide_eq_true_eq, occurrences_eq_length, named,
    Option.ite_none_right_eq_some, Option.some.injEq]

theorem selectFields?_congr {names : List String} {old new : List (String × δ)}
    (same : ∀ name ∈ names, heldValues old name = heldValues new name) :
    selectFields? names old = selectFields? names new := by
  apply Option.ext
  intro values
  have heads : names.map (fun name => (heldValues old name).head?) =
      names.map fun name => (heldValues new name).head? :=
    List.map_congr_left fun name member => congrArg List.head? (same name member)
  have once : (∀ name ∈ names, (heldValues old name).length ≤ 1) ↔
      ∀ name ∈ names, (heldValues new name).length ≤ 1 :=
    forall₂_congr fun name member => by rw [same name member]
  rw [selectFields?_eq_some_iff, selectFields?_eq_some_iff, heads, once]

theorem selectFields?_of_perm {names : List String} {old new : List (String × δ)}
    (perm : old.Perm new) {values : List (Option δ)}
    (selected : selectFields? names old = some values) : selectFields? names new = some values := by
  obtain ⟨once, _⟩ := selectFields?_eq_some_iff.mp selected
  rw [← selected]
  exact selectFields?_congr fun name member => (heldValues_of_perm perm (once name member)).symm

theorem selectFields?_of_unknown {names : List String} {name : String} (unknown : name ∉ names)
    (value : δ) (front back : List (String × δ)) :
    selectFields? names (front ++ (name, value) :: back) = selectFields? names (front ++ back) := by
  apply selectFields?_congr
  intro other member
  have different : name ≠ other := fun same => unknown (same ▸ member)
  rw [heldValues_append, heldValues_cons_of_ne different, ← heldValues_append]

/-- A name that was selected may be given another value or none, and nothing else that
is selected changes. -/
theorem selectFields?_replace {names : List String} {name : String}
    {front back : List (String × δ)} {old : δ} {values : List (Option δ)} (member : name ∈ names)
    (selected : selectFields? names (front ++ (name, old) :: back) = some values)
    (new : Option δ) :
    ∃ held : String → Option δ, held name = some old ∧ names.map held = values ∧
      selectFields? names (front ++ new.toList.map (name, ·) ++ back) =
        some (names.map (Function.update held name new)) := by
  obtain ⟨once, named⟩ := selectFields?_eq_some_iff.mp selected
  have alone : heldValues front name = [] ∧ heldValues back name = [] := by
    have bound := once name member
    rw [heldValues_append, heldValues_cons_self, List.length_append, List.length_cons] at bound
    exact ⟨List.eq_nil_of_length_eq_zero (by omega), List.eq_nil_of_length_eq_zero (by omega)⟩
  have replaced : heldValues (front ++ new.toList.map (name, ·) ++ back) name = new.toList := by
    rw [heldValues_append, heldValues_append, alone.1, alone.2, heldValues_option,
      List.nil_append, List.append_nil]
  have others : ∀ other, other ≠ name →
      heldValues (front ++ new.toList.map (name, ·) ++ back) other =
        heldValues (front ++ (name, old) :: back) other := by
    intro other different
    rw [heldValues_append, heldValues_append, heldValues_option_of_ne different.symm,
      heldValues_append, heldValues_cons_of_ne different.symm, List.append_nil]
  refine ⟨fun other => (heldValues (front ++ (name, old) :: back) other).head?, ?_, named, ?_⟩
  · simp only [heldValues_append, heldValues_cons_self, alone.1, List.nil_append, List.head?_cons]
  · refine selectFields?_eq_some_iff.mpr ⟨fun other known => ?_, List.map_congr_left ?_⟩
    · by_cases same : other = name
      · rw [same, replaced]
        exact Option.length_toList_le
      · rw [others other same]
        exact once other known
    · intro other _
      by_cases same : other = name
      · rw [same, replaced, Function.update_self, Option.head?_toList]
      · rw [others other same, Function.update_of_ne same]

theorem selectFields?_cons {names : List String} {name : String} {fields : List (String × δ)}
    {values : List (Option δ)} (value : δ) (fresh : name ∉ names)
    (absent : name ∉ fields.map Prod.fst) (selected : selectFields? names fields = some values) :
    selectFields? (name :: names) ((name, value) :: fields) = some (some value :: values) := by
  obtain ⟨once, named⟩ := selectFields?_eq_some_iff.mp selected
  have first : heldValues ((name, value) :: fields) name = [value] := by
    rw [heldValues_cons_self, heldValues_of_absent absent]
  have others : ∀ other ∈ names,
      heldValues ((name, value) :: fields) other = heldValues fields other := by
    intro other member
    have different : name ≠ other := fun same => fresh (same ▸ member)
    exact heldValues_cons_of_ne different value fields
  refine selectFields?_eq_some_iff.mpr ⟨List.forall_mem_cons.mpr ⟨?_, ?_⟩, ?_⟩
  · rw [first]
    exact Nat.le_refl 1
  · intro other member
    rw [others other member]
    exact once other member
  · rw [List.map_cons, first, List.head?_cons, ← named]
    congr 1
    exact List.map_congr_left fun other member => congrArg List.head? (others other member)

theorem alignFields?_eq_selectFields? {names : List String} {values : List δ}
    (distinct : names.Nodup) (fits : values.length ≤ names.length) :
    alignFields? names values = selectFields? names (names.zip values) := by
  rw [alignFields?, if_pos fits]
  induction names generalizing values with
  | nil =>
      cases List.eq_nil_of_length_eq_zero (Nat.le_zero.mp fits)
      rfl
  | cons name names ih =>
      obtain ⟨fresh, distinct⟩ := List.nodup_cons.mp distinct
      cases values with
      | nil =>
          symm
          refine selectFields?_eq_some_iff.mpr ⟨fun _ _ => Nat.zero_le 1, ?_⟩
          exact List.map_const'
      | cons value values =>
          have absent : name ∉ (names.zip values).map Prod.fst := by
            intro member
            obtain ⟨field, zipped, same⟩ := List.mem_map.mp member
            exact fresh (same ▸ (List.of_mem_zip zipped).1)
          have selected := (ih distinct (Nat.le_of_succ_le_succ fits)).symm
          rw [List.zip_cons_cons, selectFields?_cons value fresh absent selected]
          simp

theorem selectFields?_names {fields : List (String × δ)} (distinct : (fields.map Prod.fst).Nodup) :
    selectFields? (fields.map Prod.fst) fields = some (fields.map fun field => some field.2) := by
  have fits : (fields.map Prod.snd).length ≤ (fields.map Prod.fst).length := by simp
  have aligned := alignFields?_eq_selectFields? distinct fits
  rw [List.zip_map', List.map_id'] at aligned
  rw [← aligned, alignFields?, if_pos fits]
  simp

end CompositeKey
