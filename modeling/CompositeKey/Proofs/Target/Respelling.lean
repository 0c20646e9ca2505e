import CompositeKey.Target.Constructor
import Mathlib.Data.List.Forall2

/-!
# Constructors that are spelled differently

Constructors may be listed in another order, with their parameters in another order
and in another ASCII case.  The choice between them meets parameters through
comparisons that ignore case, and counts them; neither sees the difference.
-/

set_option autoImplicit false

namespace CompositeKey

theorem sameIgnoringCase_congr {old new : String} (same : sameIgnoringCase old new = true)
    (name : String) : sameIgnoringCase old name = sameIgnoringCase new name := by
  rw [sameIgnoringCase_iff] at same
  rw [sameIgnoringCase, sameIgnoringCase, same]

/-- The same names up to ASCII case, place by place. -/
def Recased (first second : List String) : Prop :=
  List.Forall₂ (fun old new => sameIgnoringCase old new = true) first second

section Recased

variable {first second : List String} {test : String → Bool}

theorem Recased.any_eq (recased : Recased first second)
    (respects : ∀ old new, sameIgnoringCase old new = true → test old = test new) :
    first.any test = second.any test := by
  induction recased with
  | nil => rfl
  | cons same _ ih => rw [List.any_cons, List.any_cons, respects _ _ same, ih]

theorem Recased.all_eq (recased : Recased first second)
    (respects : ∀ old new, sameIgnoringCase old new = true → test old = test new) :
    first.all test = second.all test := by
  induction recased with
  | nil => rfl
  | cons same _ ih => rw [List.all_cons, List.all_cons, respects _ _ same, ih]

end Recased

namespace Constructor

/-- The parameters of one constructor, in some order and some case, are those of the
other. -/
def Respelled (first second : Constructor) : Prop :=
  ∃ reordered, first.parameters.Perm reordered ∧ Recased reordered second.parameters

namespace Respelled

variable {first second : Constructor}

theorem length_eq (respelled : first.Respelled second) :
    first.parameters.length = second.parameters.length := by
  obtain ⟨reordered, permuted, recased⟩ := respelled
  exact permuted.length_eq.trans recased.length_eq

theorem binds_eq (respelled : first.Respelled second) (property : String) :
    first.binds property = second.binds property := by
  obtain ⟨reordered, permuted, recased⟩ := respelled
  rw [Constructor.binds, Constructor.binds, permuted.any_eq]
  apply recased.any_eq
  intro old new same
  exact sameIgnoringCase_congr same property

theorem isCandidate_eq (respelled : first.Respelled second) (properties : List String) :
    first.isCandidate properties = second.isCandidate properties := by
  obtain ⟨reordered, permuted, recased⟩ := respelled
  rw [isCandidate, isCandidate, permuted.all_eq]
  apply recased.all_eq
  intro old new same
  simp only [sameIgnoringCase_congr same]

end Respelled

end Constructor

theorem max?_eq_of_perm {first second : List Nat} (permuted : first.Perm second) :
    first.max? = second.max? := by
  cases greatest : second.max? with
  | none =>
      rw [List.max?_eq_none_iff] at greatest ⊢
      rw [greatest] at permuted
      exact permuted.eq_nil
  | some bound =>
      rw [List.max?_eq_some_iff] at greatest ⊢
      obtain ⟨member, upper⟩ := greatest
      constructor
      · exact permuted.mem_iff.mpr member
      · intro other found
        exact upper other (permuted.mem_iff.mp found)

def Respelling (first second : List Constructor) : Prop :=
  ∃ reordered, first.Perm reordered ∧ List.Forall₂ Constructor.Respelled reordered second

namespace Respelling

variable {first second : List Constructor}

theorem length_eq (respelling : Respelling first second) : first.length = second.length := by
  obtain ⟨reordered, permuted, respelled⟩ := respelling
  exact permuted.length_eq.trans respelled.length_eq

theorem isEmpty_eq (respelling : Respelling first second) : first.isEmpty = second.isEmpty := by
  rw [Bool.eq_iff_iff, List.isEmpty_iff_length_eq_zero, List.isEmpty_iff_length_eq_zero,
    respelling.length_eq]

theorem filter (respelling : Respelling first second) {test : Constructor → Bool}
    (respects : ∀ old new, Constructor.Respelled old new → test old = test new) :
    Respelling (first.filter test) (second.filter test) := by
  obtain ⟨reordered, permuted, respelled⟩ := respelling
  refine ⟨reordered.filter test, permuted.filter test, ?_⟩
  apply List.rel_filter _ respelled
  intro old new same
  simp only [respects old new same]

theorem lengths_perm (respelling : Respelling first second) :
    (first.map fun constructor => constructor.parameters.length).Perm
      (second.map fun constructor => constructor.parameters.length) := by
  obtain ⟨reordered, permuted, respelled⟩ := respelling
  have lengths : (reordered.map fun constructor => constructor.parameters.length) =
      second.map fun constructor => constructor.parameters.length := by
    induction respelled generalizing first with
    | nil => rfl
    | cons same _ ih => rw [List.map_cons, List.map_cons, same.length_eq, ih (.refl _)]
  rw [← lengths]
  exact permuted.map _

theorem widestConstructors (respelling : Respelling first second) :
    Respelling (CompositeKey.widestConstructors first)
      (CompositeKey.widestConstructors second) := by
  unfold CompositeKey.widestConstructors
  rw [max?_eq_of_perm respelling.lengths_perm]
  split
  · exact ⟨[], .nil, .nil⟩
  · apply respelling.filter
    intro old new same
    rw [same.length_eq]

end Respelling

/-- The same failure, or constructors that bind the same properties. -/
inductive SameChoice : Except ConstructorError ConstructorChoice →
    Except ConstructorError ConstructorChoice → Prop where
  | error (failure : ConstructorError) : SameChoice (.error failure) (.error failure)
  | ok {first second : ConstructorChoice}
      (binds : ∀ property, first.binds property = second.binds property) :
      SameChoice (.ok first) (.ok second)

theorem Respelling.selectConstructor {first second : List Constructor}
    (respelling : Respelling first second) (properties : List String) :
    SameChoice (CompositeKey.selectConstructor first properties)
      (CompositeKey.selectConstructor second properties) := by
  have widest : Respelling
      (CompositeKey.widestConstructors (first.filter (·.isCandidate properties)))
      (CompositeKey.widestConstructors (second.filter (·.isCandidate properties))) := by
    apply Respelling.widestConstructors
    apply respelling.filter
    intro old new same
    exact same.isCandidate_eq properties
  have length := widest.length_eq
  unfold CompositeKey.selectConstructor
  rw [respelling.isEmpty_eq]
  split
  · exact .ok fun _ => rfl
  · generalize CompositeKey.widestConstructors _ = old at widest length ⊢
    generalize CompositeKey.widestConstructors _ = new at widest length ⊢
    obtain ⟨reordered, permuted, respelled⟩ := widest
    -- Only a single widest constructor is looked at; of several the number counts.
    match old, new with
    | [], [] => exact .error .noMatch
    | [only], [other] =>
        rw [List.singleton_perm] at permuted
        subst permuted
        obtain ⟨same, _⟩ := List.forall₂_cons.mp respelled
        exact .ok same.binds_eq
    | one :: two :: rest, new :: other :: later =>
        change SameChoice (.error (.ambiguous (one :: two :: rest).length))
          (.error (.ambiguous (new :: other :: later).length))
        rw [length]
        exact .error _

end CompositeKey
