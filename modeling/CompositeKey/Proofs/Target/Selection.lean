import CompositeKey.Target.Constructor
import Mathlib.Data.List.Basic

/-!
# Which constructor is called

Candidates with the most parameters are picked from the declared constructors.  A single
one is called; when there are several, the choice is ambiguous.
-/

set_option autoImplicit false

namespace CompositeKey

namespace Constructor

def Matches (constructor : Constructor) (properties : List String) : Prop :=
  ∀ parameter ∈ constructor.parameters, ∃ property ∈ properties,
    asciiFolded parameter = asciiFolded property

theorem isCandidate_iff {constructor : Constructor} {properties : List String} :
    constructor.isCandidate properties = true ↔ constructor.Matches properties := by
  simp [isCandidate, Matches, sameIgnoringCase_iff]

instance (constructor : Constructor) (properties : List String) :
    Decidable (constructor.Matches properties) :=
  decidable_of_iff _ isCandidate_iff

theorem Matches.mono {constructor : Constructor} {properties larger : List String}
    (candidate : constructor.Matches properties) (more : properties ⊆ larger) :
    constructor.Matches larger := by
  intro parameter member
  obtain ⟨property, named, same⟩ := candidate parameter member
  exact ⟨property, more named, same⟩

end Constructor

theorem max?_length_eq_some_iff {constructors : List Constructor} {widest : Nat} :
    (constructors.map fun constructor => constructor.parameters.length).max? = some widest ↔
      (∃ first ∈ constructors, first.parameters.length = widest) ∧
        ∀ other ∈ constructors, other.parameters.length ≤ widest := by
  rw [List.max?_eq_some_iff, List.mem_map, List.forall_mem_map]

theorem widestConstructors_eq (constructors : List Constructor) :
    widestConstructors constructors = constructors.filter fun constructor =>
      ∀ other ∈ constructors, other.parameters.length ≤ constructor.parameters.length := by
  unfold widestConstructors
  split
  · rename_i none
    rw [List.max?_eq_none_iff, List.map_eq_nil_iff] at none
    rw [none, List.filter_nil]
  · rename_i widest greatest
    obtain ⟨⟨first, listed, same⟩, upper⟩ := max?_length_eq_some_iff.mp greatest
    apply List.filter_congr
    intro constructor member
    rw [Bool.eq_iff_iff, beq_iff_eq, decide_eq_true_eq]
    constructor
    · intro equal other otherMember
      rw [equal]
      exact upper other otherMember
    · intro exceeds
      apply Nat.le_antisymm
      · exact upper constructor member
      · rw [← same]
        exact exceeds first listed

theorem widestConstructors_eq_nil_iff {constructors : List Constructor} :
    widestConstructors constructors = [] ↔ constructors = [] := by
  constructor
  · intro none
    unfold widestConstructors at none
    split at none
    · rename_i empty
      rw [List.max?_eq_none_iff, List.map_eq_nil_iff] at empty
      exact empty
    · rename_i widest greatest
      obtain ⟨⟨first, listed, same⟩, -⟩ := max?_length_eq_some_iff.mp greatest
      exact absurd (beq_iff_eq.mpr same) (List.filter_eq_nil_iff.mp none first listed)
  · rintro rfl
    rfl

section Widest

variable (constructors : List Constructor) (properties : List String)

def IsWidest (constructor : Constructor) : Prop :=
  constructor.Matches properties ∧ ∀ other ∈ constructors, other.Matches properties →
    other.parameters.length ≤ constructor.parameters.length

instance : DecidablePred (IsWidest constructors properties) := fun _ =>
  inferInstanceAs (Decidable (_ ∧ _))

def IsSoleWidest (constructor : Constructor) : Prop :=
  ∃ before after, constructors = before ++ constructor :: after ∧
    constructor.Matches properties ∧ ∀ other ∈ before ++ after, other.Matches properties →
      other.parameters.length < constructor.parameters.length

def widestCandidates : List Constructor :=
  constructors.filter fun constructor => IsWidest constructors properties constructor

theorem widestConstructors_candidates :
    widestConstructors (constructors.filter (·.isCandidate properties)) =
      widestCandidates constructors properties := by
  rw [widestConstructors_eq, List.filter_filter]
  apply List.filter_congr
  intro constructor _
  rw [Bool.eq_iff_iff, Bool.and_eq_true, decide_eq_true_eq, decide_eq_true_eq,
    Constructor.isCandidate_iff, and_comm]
  simp only [IsWidest, List.mem_filter, Constructor.isCandidate_iff, and_imp]

variable {constructors properties}

theorem widestCandidates_eq_nil_iff :
    widestCandidates constructors properties = [] ↔
      ∀ constructor ∈ constructors, ¬ constructor.Matches properties := by
  rw [← widestConstructors_candidates, widestConstructors_eq_nil_iff, List.filter_eq_nil_iff]
  simp only [Constructor.isCandidate_iff]

theorem isSoleWidest_iff {constructor : Constructor} :
    IsSoleWidest constructors properties constructor ↔
      ∃ before after, constructors = before ++ constructor :: after ∧
        IsWidest constructors properties constructor ∧
          ∀ other ∈ before ++ after, ¬ IsWidest constructors properties other := by
  constructor
  · rintro ⟨before, after, split, candidate, fewer⟩
    have listed : ∀ other ∈ constructors, other = constructor ∨ other ∈ before ++ after := by
      intro other member
      rw [split, List.perm_middle.mem_iff] at member
      exact List.mem_cons.mp member
    refine ⟨before, after, split, ⟨candidate, ?_⟩, ?_⟩
    · intro other member matching
      rcases listed other member with rfl | behind
      · exact Nat.le_refl _
      · exact Nat.le_of_lt (fewer other behind matching)
    · intro other member widest
      have first : constructor ∈ constructors := by simp [split]
      have less := fewer other member widest.1
      have most := widest.2 constructor first candidate
      omega
  · rintro ⟨before, after, split, widest, others⟩
    refine ⟨before, after, split, widest.1, ?_⟩
    intro other member matching
    have listed : other ∈ constructors := by
      rw [split, List.perm_middle.mem_iff]
      exact List.mem_cons_of_mem _ member
    apply Nat.lt_of_le_of_ne (widest.2 other listed matching)
    -- With as many parameters it would be a widest one too.
    intro same
    refine others other member ⟨matching, ?_⟩
    rw [same]
    exact widest.2

theorem widestCandidates_eq_singleton_iff {constructor : Constructor} :
    widestCandidates constructors properties = [constructor] ↔
      IsSoleWidest constructors properties constructor := by
  simp only [isSoleWidest_iff, widestCandidates, List.filter_eq_cons_iff, List.filter_eq_nil_iff,
    decide_eq_true_eq, List.forall_mem_append]
  constructor
  · rintro ⟨before, after, split, front, widest, behind⟩
    exact ⟨before, after, split, widest, front, behind⟩
  · rintro ⟨before, after, split, widest, front, behind⟩
    exact ⟨before, after, split, front, widest, behind⟩

end Widest

def ConstructorChoice.parameters : ConstructorChoice → List String
  | .implicit => []
  | .declared constructor => constructor.parameters

theorem binds_eq_false_iff {choice : ConstructorChoice} {name : String} :
    choice.binds name = false ↔
      ∀ parameter ∈ choice.parameters, ¬ sameIgnoringCase parameter name := by
  cases choice with
  | implicit => simp [ConstructorChoice.binds, ConstructorChoice.parameters]
  | declared constructor =>
      simp [ConstructorChoice.binds, ConstructorChoice.parameters, Constructor.binds]

/-! ## The choice -/

section Choice

variable {constructors : List Constructor} {properties : List String}

theorem selectConstructor_of_declared (declared : constructors ≠ []) :
    selectConstructor constructors properties =
      match widestCandidates constructors properties with
      | [] => .error .noMatch
      | [only] => .ok (.declared only)
      | tied => .error (.ambiguous tied.length) := by
  have nonempty : ¬ constructors.isEmpty = true := List.isEmpty_iff.not.mpr declared
  rw [← widestConstructors_candidates]
  exact if_neg nonempty

theorem selectConstructor_cases (properties : List String) (declared : constructors ≠ []) :
    (widestCandidates constructors properties = [] ∧
        selectConstructor constructors properties = .error .noMatch) ∨
      (∃ only, widestCandidates constructors properties = [only] ∧
        selectConstructor constructors properties = .ok (.declared only)) ∨
      2 ≤ (widestCandidates constructors properties).length ∧
        selectConstructor constructors properties =
          .error (.ambiguous (widestCandidates constructors properties).length) := by
  rw [selectConstructor_of_declared declared]
  match widestCandidates constructors properties with
  | [] => exact .inl ⟨rfl, rfl⟩
  | [only] => exact .inr (.inl ⟨only, rfl, rfl⟩)
  | one :: two :: rest => exact .inr (.inr ⟨Nat.le_add_left 2 rest.length, rfl⟩)

theorem selectConstructor_eq_implicit_iff :
    selectConstructor constructors properties = .ok .implicit ↔ constructors = [] := by
  constructor
  · intro chosen
    by_contra declared
    rcases selectConstructor_cases properties declared with
      ⟨-, other⟩ | ⟨only, -, other⟩ | ⟨-, other⟩ <;> cases chosen.symm.trans other
  · rintro rfl
    rfl

theorem selectConstructor_eq_noMatch_iff :
    selectConstructor constructors properties = .error .noMatch ↔
      constructors ≠ [] ∧ ∀ constructor ∈ constructors, ¬ constructor.Matches properties := by
  rw [← widestCandidates_eq_nil_iff]
  by_cases none : constructors = []
  · simp [none, selectConstructor]
  · rcases selectConstructor_cases properties none with
      ⟨widest, chosen⟩ | ⟨only, widest, chosen⟩ | ⟨tied, chosen⟩
    · simp [none, widest, chosen]
    · simp [widest, chosen]
    · have nonempty := List.ne_nil_of_length_pos (Nat.lt_of_lt_of_le Nat.two_pos tied)
      simp [nonempty, chosen]

theorem selectConstructor_eq_declared_iff {constructor : Constructor} :
    selectConstructor constructors properties = .ok (.declared constructor) ↔
      IsSoleWidest constructors properties constructor := by
  rw [← widestCandidates_eq_singleton_iff]
  by_cases none : constructors = []
  · simp [none, selectConstructor, widestCandidates]
  · rcases selectConstructor_cases properties none with
      ⟨widest, chosen⟩ | ⟨only, widest, chosen⟩ | ⟨tied, chosen⟩
    · simp [widest, chosen]
    · simp [widest, chosen]
    · have several : widestCandidates constructors properties ≠ [constructor] := by
        intro single
        rw [single, List.length_singleton] at tied
        omega
      simp [several, chosen]

theorem selectConstructor_eq_ambiguous_iff {candidates : Nat} :
    selectConstructor constructors properties = .error (.ambiguous candidates) ↔
      2 ≤ candidates ∧ candidates = (widestCandidates constructors properties).length := by
  by_cases none : constructors = []
  · have few : ¬ (2 ≤ candidates ∧ candidates = 0) := by omega
    simpa [none, selectConstructor, widestCandidates] using few
  · rcases selectConstructor_cases properties none with
      ⟨widest, chosen⟩ | ⟨only, widest, chosen⟩ | ⟨tied, chosen⟩
    · have few : ¬ (2 ≤ candidates ∧ candidates = 0) := by omega
      simpa [widest, chosen] using few
    · have few : ¬ (2 ≤ candidates ∧ candidates = 1) := by omega
      simpa [widest, chosen] using few
    · rw [chosen, Except.error.injEq, ConstructorError.ambiguous.injEq]
      omega

theorem two_le_length_widestCandidates_iff :
    2 ≤ (widestCandidates constructors properties).length ↔
      (∃ constructor ∈ constructors, constructor.Matches properties) ∧
        ∀ constructor, ¬ IsSoleWidest constructors properties constructor := by
  have candidates : (∃ constructor ∈ constructors, constructor.Matches properties) ↔
      widestCandidates constructors properties ≠ [] := by
    rw [Ne, widestCandidates_eq_nil_iff]
    simp
  simp only [candidates, ← widestCandidates_eq_singleton_iff]
  match widestCandidates constructors properties with
  | [] => simp
  | [only] => simp
  | one :: two :: rest => simp

end Choice

/-- Without declared constructors the implicit one is called, without candidates none
matches, and a candidate is called when it has more parameters than every other one.  In
all other cases the choice is ambiguous.  More properties leave every candidate one. -/
theorem selectConstructor_decides (constructors : List Constructor) (properties : List String) :
    (selectConstructor constructors properties = .ok .implicit ↔ constructors = []) ∧
    (selectConstructor constructors properties = .error .noMatch ↔
      constructors ≠ [] ∧ ∀ constructor ∈ constructors, ¬ constructor.Matches properties) ∧
    (∀ chosen, selectConstructor constructors properties = .ok (.declared chosen) ↔
      IsSoleWidest constructors properties chosen) ∧
    (∀ candidates, selectConstructor constructors properties = .error (.ambiguous candidates) ↔
      (∃ constructor ∈ constructors, constructor.Matches properties) ∧
        (∀ chosen, ¬ IsSoleWidest constructors properties chosen) ∧
          candidates = constructors.countP fun constructor =>
            IsWidest constructors properties constructor) ∧
    (∀ candidates, selectConstructor constructors properties = .error (.ambiguous candidates) →
      2 ≤ candidates) ∧
    ∀ larger, properties ⊆ larger →
      (∀ constructor : Constructor, constructor.Matches properties →
        constructor.Matches larger) ∧
      (selectConstructor constructors properties ≠ .error .noMatch →
        selectConstructor constructors larger ≠ .error .noMatch) := by
  refine ⟨selectConstructor_eq_implicit_iff, selectConstructor_eq_noMatch_iff,
    fun _ => selectConstructor_eq_declared_iff, ?_, ?_, ?_⟩
  · intro candidates
    rw [selectConstructor_eq_ambiguous_iff, List.countP_eq_length_filter, ← widestCandidates,
      ← and_assoc, ← two_le_length_widestCandidates_iff]
    constructor
    · rintro ⟨several, rfl⟩
      exact ⟨several, rfl⟩
    · rintro ⟨several, rfl⟩
      exact ⟨several, rfl⟩
  · intro candidates ambiguous
    exact (selectConstructor_eq_ambiguous_iff.mp ambiguous).1
  · intro larger more
    refine ⟨fun _ candidate => candidate.mono more, ?_⟩
    intro matching unmatched
    obtain ⟨declared, none⟩ := selectConstructor_eq_noMatch_iff.mp unmatched
    refine matching (selectConstructor_eq_noMatch_iff.mpr ⟨declared, ?_⟩)
    intro constructor member candidate
    exact none constructor member (candidate.mono more)

def overloads : List Constructor := [⟨[]⟩, ⟨["A"]⟩, ⟨["b"]⟩, ⟨["a", "B", "c"]⟩]

theorem overloads_tie_until_more_properties :
    (∀ chosen, ¬ IsSoleWidest overloads ["a", "B"] chosen) ∧
      IsSoleWidest overloads ["a", "B", "C"] ⟨["a", "B", "c"]⟩ ∧
        selectConstructor overloads ["D", "a", "B"] ≠ .error .noMatch := by
  obtain ⟨-, -, -, tied, -, larger⟩ := selectConstructor_decides overloads ["a", "B"]
  obtain ⟨-, -, declared, -⟩ := selectConstructor_decides overloads ["a", "B", "C"]
  refine ⟨?_, (declared _).mp (by decide), ?_⟩
  · exact ((tied 2).mp (by decide)).2.1
  · exact (larger ["D", "a", "B"] (by simp)).2 (by decide)

end CompositeKey
