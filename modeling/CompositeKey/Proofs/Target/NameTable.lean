import CompositeKey.Target.EnumShape
import Mathlib.Data.List.Nodup
import Mathlib.Data.List.Perm.Subperm

/-!
# Indexing the names of an enumeration by value

An enumeration dispatches sequentially when every value marks a slot of its own among
as many slots as there are members.  No slot is then left over, so the values are the
numbers below the count of members, in some order, and a table of names can be indexed
by them.
-/

set_option autoImplicit false

namespace CompositeKey

def memberValues (members : List EnumMember) : List Int :=
  members.map fun member => member.value.toInt

theorem length_memberValues (members : List EnumMember) :
    (memberValues members).length = members.length :=
  List.length_map _

theorem countP_value (members : List EnumMember) (value : Int) :
    members.countP (fun member => member.value.toInt = value) =
      (memberValues members).count value := by
  rw [memberValues, List.count, List.countP_map]
  rfl

def IsFree (seen : List Bool) (slot : Nat) : Prop := seen[slot]? = some false

theorem isFree_replicate_iff {count slot : Nat} :
    IsFree (List.replicate count false) slot ↔ slot < count := by
  simp [IsFree, List.getElem?_replicate]

theorem isFree_set_iff {seen : List Bool} {slot other : Nat} :
    IsFree (seen.set slot true) other ↔ other ≠ slot ∧ IsFree seen other := by
  unfold IsFree
  by_cases same : other = slot
  · simp [same, List.getElem?_set]
  · simp [same, List.getElem?_set_ne (Ne.symm same)]

/-- The members take slots of their own, all of which were free. -/
def TakesSlots (seen : List Bool) (members : List EnumMember) (slots : List Nat) : Prop :=
  memberValues members = slots.map Int.ofNat ∧ slots.Nodup ∧ ∀ slot ∈ slots, IsFree seen slot

theorem takesSlots_cons_iff {seen : List Bool} {member : EnumMember} {rest : List EnumMember}
    {slots : List Nat} :
    TakesSlots seen (member :: rest) slots ↔
      ∃ slot behind, slots = slot :: behind ∧ member.value.toInt = Int.ofNat slot ∧
        IsFree seen slot ∧ TakesSlots (seen.set slot true) rest behind := by
  constructor
  · rintro ⟨values, apart, unmarked⟩
    cases slots with
    | nil => cases values
    | cons slot behind =>
        obtain ⟨first, others⟩ := List.cons.inj values
        obtain ⟨fresh, apart⟩ := List.nodup_cons.mp apart
        obtain ⟨found, unmarked⟩ := List.forall_mem_cons.mp unmarked
        refine ⟨slot, behind, rfl, first, found, others, apart, ?_⟩
        intro other member
        have different : other ≠ slot := fun same => fresh (same ▸ member)
        exact isFree_set_iff.mpr ⟨different, unmarked other member⟩
  · rintro ⟨slot, behind, rfl, first, found, others, apart, unmarked⟩
    have fresh : slot ∉ behind := fun member =>
      (isFree_set_iff.mp (unmarked slot member)).1 rfl
    refine ⟨List.cons_eq_cons.mpr ⟨first, others⟩, List.nodup_cons.mpr ⟨fresh, apart⟩, ?_⟩
    refine List.forall_mem_cons.mpr ⟨found, ?_⟩
    intro other member
    exact (isFree_set_iff.mp (unmarked other member)).2

theorem takeSlots_iff (seen : List Bool) (members : List EnumMember) :
    takeSlots seen members = true ↔ ∃ slots, TakesSlots seen members slots := by
  induction members generalizing seen with
  | nil =>
      refine ⟨fun _ => ⟨[], rfl, List.nodup_nil, ?_⟩, fun _ => rfl⟩
      exact List.forall_mem_nil _
  | cons member rest ih =>
      simp only [takesSlots_cons_iff]
      unfold takeSlots
      split
      · rename_i negative value
        refine ⟨fun impossible => absurd impossible Bool.false_ne_true, ?_⟩
        rintro ⟨slots, slot, behind, -, same, -⟩
        cases value.symm.trans same
      · rename_i slot value
        split
        · rename_i found
          rw [ih (seen.set slot true)]
          constructor
          · rintro ⟨behind, takes⟩
            exact ⟨slot :: behind, slot, behind, rfl, value, found, takes⟩
          · rintro ⟨slots, other, behind, rfl, same, -, takes⟩
            obtain rfl : slot = other := Int.ofNat.inj (value.symm.trans same)
            exact ⟨behind, takes⟩
        · rename_i taken
          refine ⟨fun impossible => absurd impossible Bool.false_ne_true, ?_⟩
          rintro ⟨slots, other, behind, -, same, found, -⟩
          obtain rfl : slot = other := Int.ofNat.inj (value.symm.trans same)
          exact absurd found taken

theorem perm_of_takesSlots {members : List EnumMember} {slots : List Nat}
    (takes : TakesSlots (List.replicate members.length false) members slots) :
    slots.Perm (List.range members.length) := by
  obtain ⟨values, apart, unmarked⟩ := takes
  have inside : slots ⊆ List.range members.length := by
    intro slot member
    exact List.mem_range.mpr (isFree_replicate_iff.mp (unmarked slot member))
  have lengths : slots.length = members.length := by
    rw [← length_memberValues, values, List.length_map]
  apply (List.subperm_of_subset apart inside).perm_of_length_le
  exact Nat.le_of_eq (List.length_range.trans lengths.symm)

theorem classifyMembers_eq_sequential_iff (members : List EnumMember) :
    classifyMembers members = .sequential ↔
      members ≠ [] ∧
        ∃ slots, TakesSlots (List.replicate members.length false) members slots := by
  rw [← takeSlots_iff]
  unfold classifyMembers
  cases members with
  | nil => simp
  | cons member rest =>
      rw [List.isEmpty_cons, if_neg Bool.false_ne_true]
      split <;> simp_all

def slotNumbers (count : Nat) : List Int := (List.range count).map Int.ofNat

theorem nodup_slotNumbers (count : Nat) : (slotNumbers count).Nodup :=
  List.nodup_range.map fun _ _ => Int.ofNat.inj

theorem mem_slotNumbers_iff {count : Nat} {value : Int} :
    value ∈ slotNumbers count ↔ ∃ slot < count, value = Int.ofNat slot := by
  simp [slotNumbers, eq_comm]

theorem exists_takesSlots_iff {members : List EnumMember} :
    (∃ slots, TakesSlots (List.replicate members.length false) members slots) ↔
      (memberValues members).Perm (slotNumbers members.length) := by
  constructor
  · rintro ⟨slots, takes⟩
    rw [takes.1]
    exact (perm_of_takesSlots takes).map Int.ofNat
  · intro permuted
    have numbered : ∀ value ∈ memberValues members, Int.ofNat value.toNat = value := by
      intro value member
      obtain ⟨slot, -, rfl⟩ := List.mem_map.mp (permuted.subset member)
      rfl
    have slots : ((memberValues members).map Int.toNat).Perm (List.range members.length) := by
      have mapped := permuted.map Int.toNat
      rw [slotNumbers, List.map_map] at mapped
      exact mapped.trans (.of_eq (List.map_id _))
    refine ⟨(memberValues members).map Int.toNat, ?_, ?_, ?_⟩
    · rw [List.map_map]
      exact ((List.map_congr_left numbered).trans (List.map_id _)).symm
    · exact slots.nodup_iff.mpr List.nodup_range
    · intro slot member
      exact isFree_replicate_iff.mpr (List.mem_range.mp (slots.subset member))

theorem perm_slotNumbers_iff {members : List EnumMember} :
    (memberValues members).Perm (slotNumbers members.length) ↔
      ∀ slot < members.length, (memberValues members).count (Int.ofNat slot) = 1 := by
  have distinct := nodup_slotNumbers members.length
  constructor
  · intro permuted slot within
    rw [permuted.count_eq]
    exact List.count_eq_one_of_mem distinct (mem_slotNumbers_iff.mpr ⟨slot, within, rfl⟩)
  · intro once
    have inside : slotNumbers members.length ⊆ memberValues members := by
      intro value member
      obtain ⟨slot, within, rfl⟩ := mem_slotNumbers_iff.mp member
      exact List.count_pos_iff.mp (by rw [once slot within]; exact Nat.one_pos)
    have lengths : (memberValues members).length = (slotNumbers members.length).length := by
      rw [length_memberValues, slotNumbers, List.length_map, List.length_range]
    have taken := List.subperm_of_subset distinct inside
    exact (taken.perm_of_length_le (Nat.le_of_eq lengths)).symm

theorem sequential_iff_perm (members : List EnumMember) :
    classifyMembers members = .sequential ↔
      members ≠ [] ∧ (memberValues members).Perm (slotNumbers members.length) := by
  rw [classifyMembers_eq_sequential_iff, exists_takesSlots_iff]

theorem classifyMembers_eq_of_perm {members others : List EnumMember}
    (permuted : (memberValues members).Perm (memberValues others)) :
    classifyMembers members = classifyMembers others := by
  have lengths : members.length = others.length := by
    rw [← length_memberValues members, permuted.length_eq, length_memberValues]
  have same : classifyMembers members = .sequential ↔ classifyMembers others = .sequential := by
    rw [sequential_iff_perm, sequential_iff_perm, lengths, permuted.congr_left,
      ← List.length_pos_iff, ← List.length_pos_iff, lengths]
  cases first : classifyMembers members <;> cases second : classifyMembers others <;> simp_all

section Table

variable {members : List EnumMember} (sequential : classifyMembers members = .sequential)

include sequential

theorem exists_slot_of_sequential {member : EnumMember} (listed : member ∈ members) :
    ∃ slot < members.length, member.value.toInt = Int.ofNat slot := by
  obtain ⟨-, permuted⟩ := (sequential_iff_perm members).mp sequential
  exact mem_slotNumbers_iff.mp (permuted.subset (List.mem_map_of_mem listed))

theorem values_distinct_of_sequential :
    members.Pairwise fun first second => first.value.toInt ≠ second.value.toInt := by
  obtain ⟨-, permuted⟩ := (sequential_iff_perm members).mp sequential
  exact List.pairwise_map.mp (permuted.nodup_iff.mpr (nodup_slotNumbers members.length))

end Table

/-- Members dispatch sequentially exactly when there are some and each number below
their count is the value of one of them.  Names and order have no influence.  A table
with a name for each member then has a place of its own for each value. -/
theorem classifyMembers_decides_name_table (members : List EnumMember) :
    (classifyMembers members = .sequential ↔
      1 ≤ members.length ∧ ∀ slot : Nat, slot < members.length →
        members.countP (fun member => member.value.toInt = (slot : Int)) = 1) ∧
    (classifyMembers members = .sequential ↔
      1 ≤ members.length ∧ (memberValues members).Perm (slotNumbers members.length)) ∧
    (∀ others, (memberValues members).Perm (memberValues others) →
      classifyMembers members = classifyMembers others) ∧
    (classifyMembers members = .sequential → ∀ table : List String,
      table.length = members.length →
        (∀ member ∈ members, ∃ slot < table.length, member.value.toInt = (slot : Int)) ∧
          members.Pairwise fun first second => first.value.toInt ≠ second.value.toInt) := by
  have nonempty : 1 ≤ members.length ↔ members ≠ [] := List.length_pos_iff
  refine ⟨?_, ?_, ?_, ?_⟩
  · rw [sequential_iff_perm, perm_slotNumbers_iff, nonempty]
    simp only [countP_value]
    rfl
  · rw [sequential_iff_perm, nonempty]
  · intro others permuted
    exact classifyMembers_eq_of_perm permuted
  · intro sequential table full
    refine ⟨?_, values_distinct_of_sequential sequential⟩
    intro member listed
    rw [full]
    exact exists_slot_of_sequential sequential listed

def colours : List EnumMember := [⟨"Green", 1⟩, ⟨"Red", 0⟩, ⟨"Blue", 2⟩]

theorem colours_index_names :
    classifyMembers colours = .sequential ∧
      classifyMembers [⟨"Black", 0⟩, ⟨"White", 1⟩, ⟨"Grey", 2⟩] = .sequential ∧
      ∀ member ∈ colours, ∃ slot : Nat, slot < 3 ∧ member.value.toInt = slot := by
  obtain ⟨decided, -, unnamed, indexed⟩ := classifyMembers_decides_name_table colours
  have sequential : classifyMembers colours = .sequential := decided.mpr (by decide)
  refine ⟨sequential, (unnamed _ (by decide)).symm.trans sequential, ?_⟩
  exact (indexed sequential ["Red", "Green", "Blue"] rfl).1

end CompositeKey
