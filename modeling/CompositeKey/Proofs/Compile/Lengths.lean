import CompositeKey.Proofs.Compile.Agreement
import CompositeKey.Proofs.Key.Lengths

/-!
# Lengths of a compiled key

The lengths of a specification are told by its template: text outside properties
counts by characters, and each property by what its values need at least.
-/

set_option autoImplicit false

namespace CompositeKey

/-- The lengths of a specification of a template that was read as these tokens. -/
structure HasLengths (declaration : KeyDeclaration) (tokens : List Token) (spec : KeySpec) :
    Prop where
  written : writtenTokens (tokens.map Token.value) = declaration.config.template.toList
  /-- No property token goes without a length. -/
  classified : ∀ token ∈ tokens, token.value.propertyName?.isSome →
    (valueClassification? declaration.target token).isSome
  minLength : spec.minLength =
    (textOutside tokens).length + (valueLengths declaration.target tokens).sum
  exact : (∀ token ∈ tokens, token.value.propertyName?.isSome →
      IsIdentifier declaration.target token) → spec.exactLength? = some spec.minLength
  inexact : (¬ ∀ token ∈ tokens, token.value.propertyName?.isSome →
      IsIdentifier declaration.target token) → spec.exactLength? = none
  sections : ∀ whole, spec = .composite whole → ∀ length,
    spec.exactLength? = some length ↔
      ∃ before after, exactLength? whole.partition = some before ∧
        exactLength? whole.sort = some after ∧ length = before + 1 + after
  emptySection : exactLength? [] = some 0

theorem exists_built_of_compile_ok {declaration : KeyDeclaration} {spec : KeySpec}
    (compiled : compile declaration = .ok spec) :
    ∃ tokens, declaration.tokens = .ok tokens ∧
      (buildParts declaration.target tokens).errors = [] ∧
      spec.parts = (buildParts declaration.target tokens).parts := by
  obtain ⟨clean, tokens, run, assembled⟩ := finish_of_compile_ok compiled
  have none := finish_ok_iff.mp clean
  rw [found_validated, run] at none
  simp only [List.append_eq_nil_iff, checkParts_eq_map, List.map_eq_nil_iff] at none
  exact ⟨tokens, run, none.2.2, parts_of_assemble assembled⟩

/-- Lengths come from the template: characters outside properties, the least length
of each property, and an exact length when all properties are single identifiers. -/
theorem compile_gives_lengths {declaration : KeyDeclaration} {spec : KeySpec}
    (compiled : compile declaration = .ok spec) :
    ∃ tokens, declaration.tokens = .ok tokens ∧ HasLengths declaration tokens spec := by
  obtain ⟨tokens, run, complete, parts⟩ := exists_built_of_compile_ok compiled
  obtain ⟨_, _, reading⟩ := tokenize_eq_ok_iff.mp run
  have measured : List.Forall₂ (Measures declaration.target) tokens spec.parts := by
    rw [parts]
    apply (forall₂_buildPart complete).imp
    intro token part built
    exact measures_of_buildPart built
  have exact := all_isExact_of_measures measured
  refine ⟨tokens, run, reading.written, isSome_valueClassification? measured,
    minLength_of_measures measured, ?_, ?_, ?_, rfl⟩
  · intro identifiers
    rw [KeySpec.exactLength?, exactLength?_eq, if_pos (exact.mpr identifiers)]
    rfl
  · intro others
    rw [KeySpec.exactLength?, exactLength?_eq, if_neg (exact.not.mpr others)]
  · intro whole composite length
    subst composite
    exact CompositeSpec.exactLength?_parts_eq_some_iff

def colourKey : KeyDeclaration :=
  ⟨((TargetType.ofName "Key").withProperty (.ofType "Id" .plainGuid)).withProperty
    (.ofType "Colour" (.enumeration "Colour" ⟨[⟨"Green", 0⟩, ⟨"Yellow", 1⟩]⟩)),
    ⟨"→é{Id:N}·{Colour}", some '→', true⟩⟩

theorem lengths_of_colour_key :
    ∃ spec tokens, compile colourKey = .ok spec ∧ colourKey.tokens = .ok tokens ∧
      HasLengths colourKey tokens spec ∧ spec.minLength = 40 ∧ spec.exactLength? = none := by
  have measured : (compile colourKey).map (fun spec => (spec.minLength, spec.exactLength?)) =
      .ok (40, none) := by
    decide +kernel
  obtain ⟨spec, compiled, same⟩ := map_eq_ok_iff.mp measured
  obtain ⟨least, exact⟩ := Prod.mk.inj same
  obtain ⟨tokens, read, lengths⟩ := compile_gives_lengths compiled
  exact ⟨spec, tokens, compiled, read, lengths, least, exact⟩

end CompositeKey
