import CompositeKey.Proofs.Diagnostic.Checks

/-!
# Runs of checks

A validator that runs checks one after another finds what each of them finds on its own.
It may run any checks, in any order and repeatedly.
-/

set_option autoImplicit false

namespace CompositeKey

theorem finish_ok_iff {validator : Validator} :
    validator.finish = .ok () ↔ validator.found = [] := by
  unfold Validator.finish
  split
  · rename_i none
    simpa using Diagnostics.ofList?_eq_none_iff.mp none
  · rename_i diagnostics found
    have same := Diagnostics.toList_of_ofList? found
    simp [← same, diagnostics.ne_nil]

theorem toList_of_finish_error {validator : Validator} {diagnostics : Diagnostics}
    (failed : validator.finish = .error diagnostics) : diagnostics.toList = validator.found := by
  unfold Validator.finish at failed
  split at failed
  · contradiction
  · rename_i found collected
    cases failed
    exact Diagnostics.toList_of_ofList? collected

theorem finish_error_iff {validator : Validator} {diagnostics : Diagnostics} :
    validator.finish = .error diagnostics ↔ diagnostics.toList = validator.found := by
  constructor
  · exact toList_of_finish_error
  · intro same
    cases finished : validator.finish with
    | ok => exact absurd (same.trans (finish_ok_iff.mp finished)) diagnostics.ne_nil
    | error others =>
        have equal := same.trans (toList_of_finish_error finished).symm
        cases diagnostics
        cases others
        cases equal
        rfl

namespace Validator

def reported (validator : Validator) : List Diagnostic :=
  match validator.finish with
  | .ok () => []
  | .error diagnostics => diagnostics.toList

theorem reported_eq_found (validator : Validator) : validator.reported = validator.found := by
  unfold reported
  split
  · rename_i finished
    exact (finish_ok_iff.mp finished).symm
  · rename_i diagnostics finished
    exact toList_of_finish_error finished

end Validator

namespace Validator

theorem declaration_check (validator : Validator) (check : Check) :
    (validator.check check).declaration = validator.declaration := rfl

theorem found_check (validator : Validator) (check : Check) :
    (validator.check check).found =
      validator.found ++ check.diagnostics validator.declaration :=
  check.appends_collect validator.declaration validator.found

theorem found_run (validator : Validator) (checks : List Check) :
    (validator.run checks).found =
      validator.found ++ checks.flatMap (Check.diagnostics validator.declaration) := by
  induction checks generalizing validator with
  | nil => exact (List.append_nil _).symm
  | cons check rest ih =>
      have later := ih (validator.check check)
      rw [found_check, declaration_check, List.append_assoc] at later
      rw [List.flatMap_cons]
      exact later

theorem found_run_ofDeclaration (declaration : KeyDeclaration) (checks : List Check) :
    ((ofDeclaration declaration).run checks).found =
      checks.flatMap (Check.diagnostics declaration) :=
  found_run _ checks

end Validator

def Check.reportedAlone (declaration : KeyDeclaration) (check : Check) : List Diagnostic :=
  ((Validator.ofDeclaration declaration).check check).reported

theorem Check.reportedAlone_eq (declaration : KeyDeclaration) (check : Check) :
    check.reportedAlone declaration = check.diagnostics declaration :=
  Validator.reported_eq_found _

theorem Validator.reported_run_ofDeclaration (declaration : KeyDeclaration)
    (checks : List Check) :
    ((ofDeclaration declaration).run checks).reported =
      checks.flatMap (Check.reportedAlone declaration) := by
  rw [reported_eq_found, found_run_ofDeclaration, funext (Check.reportedAlone_eq declaration)]

theorem Check.reportedAlone_eq_nil_iff {declaration : KeyDeclaration} {check : Check} :
    check.reportedAlone declaration = [] ↔
      ((Validator.ofDeclaration declaration).check check).finish = .ok () := by
  rw [reportedAlone, Validator.reported_eq_found, finish_ok_iff]

section Accumulation

variable (declaration : KeyDeclaration) (checks : List Check)

/-- A run of checks reports the blocks that its checks report alone, in their order.  It
succeeds when each of them does.  In another order the same blocks are reported, and one
more check leaves what was reported in front. -/
theorem checks_accumulate :
    (∀ diagnostics : Diagnostics,
      ((Validator.ofDeclaration declaration).run checks).finish = .error diagnostics ↔
        diagnostics.toList = checks.flatMap (Check.reportedAlone declaration)) ∧
    (((Validator.ofDeclaration declaration).run checks).finish = .ok () ↔
      ∀ check ∈ checks, ((Validator.ofDeclaration declaration).check check).finish = .ok ()) ∧
    (∀ reordered, checks.Perm reordered → ∃ blocks : List (List Diagnostic),
      blocks.Perm (checks.map (Check.reportedAlone declaration)) ∧
        ((Validator.ofDeclaration declaration).run reordered).reported = blocks.flatten) ∧
    ∀ check, ((Validator.ofDeclaration declaration).run checks).reported <+:
      ((Validator.ofDeclaration declaration).run (checks ++ [check])).reported := by
  have whole := Validator.reported_run_ofDeclaration declaration
  refine ⟨?_, ?_, ?_, ?_⟩
  · intro diagnostics
    rw [finish_error_iff, ← Validator.reported_eq_found, whole]
  · rw [finish_ok_iff, ← Validator.reported_eq_found, whole, List.flatMap_eq_nil_iff]
    simp only [Check.reportedAlone_eq_nil_iff]
  · intro reordered permuted
    refine ⟨reordered.map (Check.reportedAlone declaration), (permuted.map _).symm, ?_⟩
    rw [whole, List.flatMap_def]
  · intro check
    rw [whole, whole, List.flatMap_append]
    exact List.prefix_append _ _

end Accumulation

def interfaceKey : KeyDeclaration :=
  ⟨(TargetType.ofName "Key").withShape .interfaceType, ⟨"{A}", some '|', true⟩⟩

def interfaceChecks : List Check :=
  [.tokens [⟨.constant "a", .empty 0⟩], .target, .tokenizationFailed .emptyTemplate, .target]

theorem interface_checks_accumulate :
    ((Validator.ofDeclaration interfaceKey).run interfaceChecks).finish =
      .error ⟨[.unusedPrimarySeparator '|', .unsupportedTargetShape interfaceKey.target,
        .tokenizationFailure .emptyTemplate, .unsupportedTargetShape interfaceKey.target],
          by decide⟩ ∧
    ∃ blocks : List (List Diagnostic),
      blocks.Perm (interfaceChecks.map (Check.reportedAlone interfaceKey)) ∧
        ((Validator.ofDeclaration interfaceKey).run interfaceChecks.reverse).reported =
          blocks.flatten := by
  obtain ⟨reported, -, reordered, -⟩ := checks_accumulate interfaceKey interfaceChecks
  refine ⟨(reported _).mpr (by decide), ?_⟩
  exact reordered interfaceChecks.reverse interfaceChecks.reverse_perm.symm

end CompositeKey
