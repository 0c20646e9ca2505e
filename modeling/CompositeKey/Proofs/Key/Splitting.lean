import CompositeKey.Proofs.Key.Assembly

/-!
# Splitting parts at a position

A composite specification is made in two ways.  Splitting looks at one position and asks
for a primary delimiter there; assembling counts the primary delimiters of all parts.  The
two make the same specifications of parts with one primary delimiter at most, and of no
others: splitting does not see a second delimiter.
-/

set_option autoImplicit false

namespace CompositeKey

variable {parts : List KeyPart} {config : KeyConfig}

namespace CompositeSpec

variable {index : Nat} {invariant : Bool} {spec : CompositeSpec}

theorem length_partition_of_ofParts? (split : ofParts? parts index invariant = some spec) :
    spec.partition.length = index ∧ spec.invariantFormatting = invariant := by
  unfold ofParts? at split
  split at split
  · rename_i delimiter sort found
    cases split
    have within : index < parts.length := by
      apply Nat.lt_of_not_le
      intro beyond
      rw [List.drop_eq_nil_of_le beyond] at found
      cases found
    exact ⟨List.length_take_of_le (Nat.le_of_lt within), rfl⟩
  · contradiction

theorem ofParts?_eq_some_iff :
    ofParts? parts index invariant = some spec ↔
      spec.parts = parts ∧ spec.partition.length = index ∧
        spec.invariantFormatting = invariant := by
  constructor
  · intro split
    exact ⟨parts_of_ofParts? split, length_partition_of_ofParts? split⟩
  · rintro ⟨rfl, rfl, rfl⟩
    simp [ofParts?, CompositeSpec.parts]

theorem isSome_ofParts?_iff :
    (ofParts? parts index invariant).isSome ↔
      ∃ delimiter, parts[index]? = some (.primaryDelimiter delimiter) := by
  rw [← List.head?_drop, ofParts?]
  split
  · rename_i delimiter sort found
    simp [found]
  · rename_i other
    simp only [Option.isSome_none, Bool.false_eq_true, false_iff]
    rintro ⟨delimiter, first⟩
    obtain ⟨sort, found⟩ := List.head?_eq_some_iff.mp first
    exact other delimiter sort found

theorem delimiterCount_parts (spec : CompositeSpec) :
    delimiterCount spec.parts = delimiterCount spec.partition + delimiterCount spec.sort + 1 := by
  rw [CompositeSpec.parts, delimiterCount, List.countP_append, List.countP_cons_of_pos rfl]
  exact (Nat.add_assoc _ _ 1).symm

theorem delimiterCount_parts_eq_one_iff :
    delimiterCount spec.parts = 1 ↔
      delimiterCount spec.partition = 0 ∧ delimiterCount spec.sort = 0 := by
  rw [delimiterCount_parts]
  omega

end CompositeSpec

theorem splitAtDelimiter_of_free {before : List KeyPart} (free : delimiterCount before = 0)
    (delimiter : DelimiterPart) (after : List KeyPart) :
    splitAtDelimiter (before ++ .primaryDelimiter delimiter :: after) =
      some (before, delimiter, after) := by
  induction before with
  | nil => rfl
  | cons part rest ih =>
      have none := isPrimaryDelimiter_of_delimiterCount_eq_zero free
      obtain ⟨other, others⟩ := List.forall_mem_cons.mp none
      have behind : delimiterCount rest = 0 := by
        simpa [delimiterCount, List.countP_eq_zero] using others
      rw [List.cons_append, splitAtDelimiter_cons _ other, ih behind]
      rfl

theorem assemble_eq_composite_iff {spec : CompositeSpec} :
    assemble parts config = .ok (.composite spec) ↔
      spec.parts = parts ∧ delimiterCount parts = 1 ∧
        spec.invariantFormatting = config.invariantFormatting := by
  constructor
  · intro assembled
    obtain ⟨other, _⟩ | ⟨whole, same, whole_parts, single, _, _, formatting⟩ :=
      assemble_ok_cases assembled
    · cases other
    · cases same
      exact ⟨whole_parts, single, formatting⟩
  · rintro ⟨rfl, single, formatting⟩
    obtain ⟨before, after⟩ := CompositeSpec.delimiterCount_parts_eq_one_iff.mp single
    have split := splitAtDelimiter_of_free before spec.delimiter spec.sort
    have behind : spec.sort.any KeyPart.isPrimaryDelimiter = false := by
      rw [any_isPrimaryDelimiter_eq, after]
      rfl
    simp only [assemble, CompositeSpec.parts, split, behind, ← formatting]
    rfl

theorem exists_parts_eq_of_delimiterCount_pos (invariant : Bool)
    (positive : 0 < delimiterCount parts) :
    ∃ spec : CompositeSpec, spec.parts = parts ∧ spec.invariantFormatting = invariant := by
  cases split : splitAtDelimiter parts with
  | none =>
      rw [splitAtDelimiter_eq_none_iff.mp split] at positive
      contradiction
  | some found =>
      obtain ⟨before, delimiter, after⟩ := found
      exact ⟨⟨before, delimiter, after, invariant⟩, (splitAtDelimiter_eq_some split).1.symm, rfl⟩

theorem assemble_at_iff {index : Nat} {spec : CompositeSpec} :
    assemble parts config = .ok (.composite spec) ∧ spec.partition.length = index ↔
      CompositeSpec.ofParts? parts index config.invariantFormatting = some spec ∧
        delimiterCount parts = 1 := by
  rw [assemble_eq_composite_iff, CompositeSpec.ofParts?_eq_some_iff]
  constructor
  · rintro ⟨⟨whole, single, formatting⟩, position⟩
    exact ⟨⟨whole, position, formatting⟩, single⟩
  · rintro ⟨⟨whole, position, formatting⟩, single⟩
    exact ⟨⟨whole, single, formatting⟩, position⟩

/-- Splitting succeeds where a primary delimiter stands and always leaves the parts
together.  Assembling makes the same specification of them when that delimiter is the only
one, which is when none stands in a section.  So splitting and assembling agree on parts
with one primary delimiter at most, and on no others. -/
theorem splitting_agrees_with_assembling (parts : List KeyPart) (config : KeyConfig) :
    (∀ index, (CompositeSpec.ofParts? parts index config.invariantFormatting).isSome ↔
      ∃ delimiter, parts[index]? = some (.primaryDelimiter delimiter)) ∧
    (∀ index, ∀ spec ∈ CompositeSpec.ofParts? parts index config.invariantFormatting,
      spec.partition ++ [.primaryDelimiter spec.delimiter] ++ spec.sort = parts ∧
        spec.partition.length = index ∧
        spec.invariantFormatting = config.invariantFormatting ∧
        (delimiterCount parts = 1 ↔
          delimiterCount spec.partition = 0 ∧ delimiterCount spec.sort = 0)) ∧
    (∀ index spec, assemble parts config = .ok (.composite spec) ∧ spec.partition.length = index ↔
      CompositeSpec.ofParts? parts index config.invariantFormatting = some spec ∧
        delimiterCount parts = 1) ∧
    ((∀ index spec, CompositeSpec.ofParts? parts index config.invariantFormatting = some spec ↔
        assemble parts config = .ok (.composite spec) ∧ spec.partition.length = index) ↔
      delimiterCount parts ≤ 1) := by
  refine ⟨fun _ => CompositeSpec.isSome_ofParts?_iff, ?_, fun _ _ => assemble_at_iff, ?_, ?_⟩
  · intro index spec split
    obtain ⟨whole, position, formatting⟩ := CompositeSpec.ofParts?_eq_some_iff.mp split
    refine ⟨?_, position, formatting, ?_⟩
    · rw [← whole, CompositeSpec.parts, List.append_assoc, List.singleton_append]
    · rw [← whole]
      exact CompositeSpec.delimiterCount_parts_eq_one_iff
  · intro agree
    apply Nat.le_of_not_lt
    intro several
    -- Split at the first delimiter, the parts are not what assembling makes.
    obtain ⟨spec, whole, formatting⟩ :=
      exists_parts_eq_of_delimiterCount_pos config.invariantFormatting (Nat.zero_lt_of_lt several)
    have split := CompositeSpec.ofParts?_eq_some_iff.mpr ⟨whole, rfl, formatting⟩
    have assembled := ((agree spec.partition.length spec).mp split).1
    have single := (assemble_eq_composite_iff.mp assembled).2.1
    omega
  · intro few index spec
    rw [assemble_at_iff]
    refine ⟨fun split => ⟨split, ?_⟩, And.left⟩
    have counted := spec.delimiterCount_parts
    rw [(CompositeSpec.ofParts?_eq_some_iff.mp split).1] at counted
    omega

def fencedParts (second : List KeyPart) : List KeyPart :=
  [.primaryDelimiter ⟨'|', .ofLength 0 1⟩, .constant "a" (.ofLength 1 1)] ++ second

def secondFence : List KeyPart := [.primaryDelimiter ⟨'|', .ofLength 2 1⟩]

def fencedConfig : KeyConfig := (KeyConfig.ofTemplate "|a|").withPrimarySeparator '|'

theorem fenced_parts_agree_without_second_delimiter :
    (∃ spec, CompositeSpec.ofParts? (fencedParts []) 0 true = some spec ∧
      assemble (fencedParts []) fencedConfig = .ok (.composite spec)) ∧
    ∃ spec ∈ CompositeSpec.ofParts? (fencedParts secondFence) 2 true,
      spec.partition ++ [.primaryDelimiter spec.delimiter] ++ spec.sort =
        fencedParts secondFence := by
  obtain ⟨-, -, -, agree⟩ := splitting_agrees_with_assembling (fencedParts []) fencedConfig
  obtain ⟨-, together, -, -⟩ :=
    splitting_agrees_with_assembling (fencedParts secondFence) fencedConfig
  constructor
  · exact ⟨⟨[], _, _, true⟩, rfl, ((agree.mpr (by decide) 0 _).mp rfl).1⟩
  · exact ⟨⟨fencedParts [], _, [], true⟩, rfl, (together 2 _ rfl).1⟩

/-- Splitting takes the first of two delimiters and leaves the second one in the sort key. -/
theorem fenced_parts_split_but_not_assembled :
    (∃ spec, CompositeSpec.ofParts? (fencedParts secondFence) 0 true = some spec ∧
      delimiterCount spec.parts = 2 ∧ delimiterCount spec.sort = 1) ∧
    assemble (fencedParts secondFence) fencedConfig = .error (.multiplePrimaryDelimiters 2) :=
  ⟨⟨⟨[], _, _, true⟩, rfl, rfl, rfl⟩, rfl⟩

end CompositeKey
