import CompositeKey.Compile
import CompositeKey.Proofs.Template.Capped

/-!
# Compiling templates past the largest offset

A declaration has no compilation exactly when reading its template comes to a range
that does not fit.  Every other compilation is the one that `compile` gives.
-/

set_option autoImplicit false

namespace CompositeKey

namespace KeyDeclaration

/-- Reading the template comes to a range that does not fit. -/
def TemplateOverflows (declaration : KeyDeclaration) : Prop :=
  UsableSeparator declaration.config.primarySeparator ∧
    ComesToOverflow declaration.config.primarySeparator declaration.config.template.toList

section Templates

variable {declaration : KeyDeclaration}

theorem not_templateOverflows_of_le
    (small : byteLength declaration.config.template.toList ≤ maxOffset) :
    ¬ declaration.TemplateOverflows := by
  intro overflows
  have past := overflows.2.lt
  omega

theorem tokens?_eq_none_iff : declaration.tokens? = none ↔ declaration.TemplateOverflows :=
  tokenize?_eq_none_iff

theorem eq_of_tokens? {answer : Except TokenizeError (List Token)}
    (read : declaration.tokens? = some answer) : answer = declaration.tokens :=
  eq_of_tokenize? read

end Templates

end KeyDeclaration

section Compiling

variable {declaration : KeyDeclaration} {declarations : List KeyDeclaration}

theorem compile?_eq_none_iff : compile? declaration = none ↔ declaration.TemplateOverflows := by
  rw [compile?, Option.map_eq_none_iff, KeyDeclaration.tokens?_eq_none_iff]

theorem eq_of_compile? {answer : Except Diagnostics KeySpec}
    (compiled : compile? declaration = some answer) : answer = compile declaration := by
  obtain ⟨read, found, rfl⟩ := Option.map_eq_some_iff.mp compiled
  rw [KeyDeclaration.eq_of_tokens? found, compile]

theorem compile?_eq_some_iff {answer : Except Diagnostics KeySpec} :
    compile? declaration = some answer ↔
      ¬ declaration.TemplateOverflows ∧ compile declaration = answer := by
  rw [← compile?_eq_none_iff]
  cases compiled : compile? declaration with
  | none => simp
  | some found => simp [eq_of_compile? compiled]

theorem compile?_replicate_hash {count : Nat} (large : maxOffset < count) (target : TargetType)
    (invariant : Bool) :
    compile? ⟨target, ⟨String.ofList (List.replicate count '#'), none, invariant⟩⟩ = none := by
  rw [compile?, KeyDeclaration.tokens?, tokenize?_replicate_hash large, Option.map_none]

theorem compile?_congr {first second : KeyDeclaration} (config : first.config = second.config)
    (same : compile first = compile second) : compile? first = compile? second := by
  ext answer
  rw [compile?_eq_some_iff, compile?_eq_some_iff, same, KeyDeclaration.TemplateOverflows,
    KeyDeclaration.TemplateOverflows, config]

/-- Compiling many declarations has an answer when each of them has one. -/
theorem compileAll?_eq_some_iff {answers : List (Except Diagnostics KeySpec)} :
    compileAll? declarations = some answers ↔
      (∀ declaration ∈ declarations, ¬ declaration.TemplateOverflows) ∧
        compileAll declarations = answers := by
  induction declarations generalizing answers with
  | nil => simp [compileAll?, compileAll]
  | cons first others ih =>
      rw [compileAll?, List.mapM_cons, compileAll, List.map_cons, List.forall_mem_cons]
      simp only [Option.bind_eq_bind, Option.bind_eq_some_iff, compile?_eq_some_iff]
      constructor
      · rintro ⟨_, ⟨fits, rfl⟩, later, rest, same⟩
        obtain ⟨fit, rfl⟩ := ih.mp rest
        cases same
        exact ⟨⟨fits, fit⟩, rfl⟩
      · rintro ⟨⟨fits, fit⟩, rfl⟩
        exact ⟨_, ⟨fits, rfl⟩, _, ih.mpr ⟨fit, rfl⟩, rfl⟩

end Compiling

end CompositeKey
