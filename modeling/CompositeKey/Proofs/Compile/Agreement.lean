import CompositeKey.Compile
import CompositeKey.Proofs.Diagnostic.Checks
import CompositeKey.Proofs.Diagnostic.Runs
import CompositeKey.Proofs.Key.Assembly
import CompositeKey.Proofs.Key.Building
import CompositeKey.Proofs.Template.Grammar

/-!
# Validation and assembly agree

The validator counts primary delimiters among tokens, the assembler among the
parts that could be built.  Both counts are the same, so the assembler refuses
for want of a delimiter what the validator reports, and nothing that passed
validation.
-/

set_option autoImplicit false

namespace CompositeKey

theorem filter_checkTokens (declaration : KeyDeclaration) (tokens : List Token) :
    (checkTokens declaration tokens).filter (fun found => found.code = .unusedPrimarySeparator) =
      checkSeparator declaration.config tokens := by
  have separator : ∀ diagnostic ∈ checkSeparator declaration.config tokens,
      diagnostic.code = .unusedPrimarySeparator := fun _ => code_of_mem_checkSeparator
  rw [checkTokens_eq_append, List.filter_append, List.filter_append, filter_code_eq_self separator,
    filter_checkMembers_of_ne (by decide) (by decide), filter_checkPlacement_of_ne (by decide),
    List.append_nil, List.append_nil]

def primaryCount (tokens : List Token) : Nat :=
  tokens.countP fun token => token.value.isPrimaryDelimiter

theorem delimiterCount_buildParts (target : TargetType) (tokens : List Token) :
    delimiterCount (buildParts target tokens).parts = primaryCount tokens :=
  countP_parts_buildParts target tokens

theorem hasPrimaryDelimiter_eq_false_iff {tokens : List Token} :
    hasPrimaryDelimiter tokens = false ↔ primaryCount tokens = 0 := by
  simp [hasPrimaryDelimiter, primaryCount, List.countP_eq_zero]

theorem checkSeparator_eq (config : KeyConfig) (tokens : List Token) :
    checkSeparator config tokens =
      if primaryCount tokens = 0 then
        (config.primarySeparator.map Diagnostic.unusedPrimarySeparator).toList
      else [] := by
  have present : hasPrimaryDelimiter tokens = false ↔ primaryCount tokens = 0 :=
    hasPrimaryDelimiter_eq_false_iff
  rw [checkSeparator_eq_match]
  cases config.primarySeparator with
  | none => simp
  | some separator =>
      by_cases absent : primaryCount tokens = 0
      · simp [absent, present.mpr absent]
      · have found : hasPrimaryDelimiter tokens = true := by
          rw [← Bool.not_eq_false, present]
          exact absent
        simp [absent, found]

/-- A template has one primary delimiter at most, and none without a configured
separator. -/
theorem primaryCount_of_tokenize {template : String} {separator : Option Char}
    {tokens : List Token} (run : tokenize template separator = .ok tokens) :
    primaryCount tokens ≤ 1 ∧ (separator = none → primaryCount tokens = 0) := by
  obtain ⟨canonical, _⟩ := canonical_of_tokenize run
  constructor
  · have single := canonical.single
    rw [List.countP_map] at single
    exact single
  · rintro rfl
    rw [primaryCount, List.countP_eq_zero]
    intro token member primary
    have formed := canonical.wellFormed token.value (List.mem_map_of_mem member)
    cases value : token.value with
    | primaryDelimiter c => simp [value, TemplateToken.WellFormed] at formed
    | _ => simp [value, TemplateToken.isPrimaryDelimiter] at primary

theorem found_validated (declaration : KeyDeclaration) :
    declaration.validated.found =
      checkTarget declaration.target ++
        match declaration.tokens with
        | .ok tokens =>
            checkTokens declaration tokens ++ checkParts (buildParts declaration.target tokens)
        | .error failure => [.tokenizationFailure failure] := by
  unfold KeyDeclaration.validated KeyDeclaration.checks
  cases declaration.tokens with
  | ok tokens =>
      rw [Validator.found_run_ofDeclaration]
      simp [KeyDeclaration.checksOf, Check.diagnostics, Check.collect, checkTarget, checkTokens,
        checkParts]
  | error failure =>
      rw [Validator.found_run_ofDeclaration]
      simp [KeyDeclaration.checksOf, Check.diagnostics, Check.collect, checkTarget, collect]

theorem exists_assemble_of_finish {declaration : KeyDeclaration}
    (clean : declaration.validated.finish = .ok ()) :
    ∃ tokens spec, declaration.tokens = .ok tokens ∧
      assemble (buildParts declaration.target tokens).parts declaration.config = .ok spec := by
  have empty := finish_ok_iff.mp clean
  rw [found_validated] at empty
  cases run : declaration.tokens with
  | error failure => simp [run] at empty
  | ok tokens =>
      simp only [run, List.append_eq_nil_iff, checkTokens_eq_append] at empty
      have unreported := empty.2.1.1.1
      rw [checkSeparator_eq] at unreported
      obtain ⟨single, absent⟩ := primaryCount_of_tokenize run
      have success : ∃ spec,
          assemble (buildParts declaration.target tokens).parts declaration.config = .ok spec := by
        rw [assemble_ok_iff, delimiterCount_buildParts]
        -- Without a primary delimiter the separator check would have reported.
        by_cases zero : primaryCount tokens = 0
        · refine .inr ⟨zero, ?_⟩
          simpa [zero] using unreported
        · exact .inl (by omega)
      obtain ⟨spec, assembled⟩ := success
      exact ⟨tokens, spec, rfl, assembled⟩

theorem compile_of_assemble {declaration : KeyDeclaration} {tokens : List Token} {spec : KeySpec}
    (clean : declaration.validated.finish = .ok ()) (run : declaration.tokens = .ok tokens)
    (assembled : assemble (buildParts declaration.target tokens).parts declaration.config =
      .ok spec) : compile declaration = .ok spec := by
  simp only [compile_eq_match, clean, assembleTokens, run, assembled]

theorem exists_compile_of_finish {declaration : KeyDeclaration}
    (clean : declaration.validated.finish = .ok ()) : ∃ spec, compile declaration = .ok spec := by
  obtain ⟨_, spec, run, assembled⟩ := exists_assemble_of_finish clean
  exact ⟨spec, compile_of_assemble clean run assembled⟩

theorem finish_of_compile_ok {declaration : KeyDeclaration} {spec : KeySpec}
    (compiled : compile declaration = .ok spec) :
    declaration.validated.finish = .ok () ∧ ∃ tokens, declaration.tokens = .ok tokens ∧
      assemble (buildParts declaration.target tokens).parts declaration.config = .ok spec := by
  cases finished : declaration.validated.finish with
  | error found => simp [compile_eq_match, finished] at compiled
  | ok none =>
      obtain ⟨tokens, assembledSpec, run, assembled⟩ := exists_assemble_of_finish finished
      rw [compile_of_assemble finished run assembled, Except.ok.injEq] at compiled
      subst compiled
      exact ⟨rfl, tokens, run, assembled⟩

theorem finish_of_compile_error {declaration : KeyDeclaration} {diagnostics : Diagnostics}
    (refused : compile declaration = .error diagnostics) :
    declaration.validated.finish = .error diagnostics := by
  cases finished : declaration.validated.finish with
  | error found => simpa [compile_eq_match, finished] using refused
  | ok none =>
      obtain ⟨tokens, spec, run, assembled⟩ := exists_assemble_of_finish finished
      rw [compile_of_assemble finished run assembled] at refused
      contradiction

/-! ## Hand-built token lists -/

section Agreement

variable (declaration : KeyDeclaration) (tokens : List Token)

theorem unused_mem_codes_iff :
    DiagnosticCode.unusedPrimarySeparator ∈ (checkTokens declaration tokens).map Diagnostic.code ↔
      primaryCount tokens = 0 ∧ declaration.config.primarySeparator ≠ none := by
  have mem_iff : DiagnosticCode.unusedPrimarySeparator ∈
      (checkTokens declaration tokens).map Diagnostic.code ↔
        (checkTokens declaration tokens).filter
          (fun found => found.code = .unusedPrimarySeparator) ≠ [] := by
    simp [List.filter_eq_nil_iff]
  rw [mem_iff, filter_checkTokens, checkSeparator_eq]
  by_cases absent : primaryCount tokens = 0 <;> simp [absent]

/-- Assembling what could be built of any tokens fails for an unused separator
exactly when the validator reports one, and with that diagnostic.  It fails for
several primary delimiters exactly when there are several, and never otherwise;
after a validation without findings it succeeds, so that no diagnostic of
`compile` comes from anywhere but the validator. -/
theorem assembler_never_disagrees :
    (declaration.validated.finish = .ok () →
      ∃ read spec, declaration.tokens = .ok read ∧
        assemble (buildParts declaration.target read).parts declaration.config = .ok spec ∧
        compile declaration = .ok spec) ∧
    (∀ diagnostics, compile declaration = .error diagnostics →
      declaration.validated.finish = .error diagnostics) ∧
    ((∃ separator,
        assemble (buildParts declaration.target tokens).parts declaration.config =
          .error (.unusedPrimarySeparator separator)) ↔
      DiagnosticCode.unusedPrimarySeparator ∈
        (checkTokens declaration tokens).map Diagnostic.code) ∧
    (∀ separator,
      assemble (buildParts declaration.target tokens).parts declaration.config =
          .error (.unusedPrimarySeparator separator) →
        (checkTokens declaration tokens).filter
            (fun found => found.code = .unusedPrimarySeparator) =
          (Diagnostics.ofAssembleError (.unusedPrimarySeparator separator)).toList) ∧
    (∀ count,
      assemble (buildParts declaration.target tokens).parts declaration.config =
          .error (.multiplePrimaryDelimiters count) ↔
        2 ≤ count ∧ count = primaryCount tokens) ∧
    ((∃ spec,
        assemble (buildParts declaration.target tokens).parts declaration.config = .ok spec) ↔
      DiagnosticCode.unusedPrimarySeparator ∉
          (checkTokens declaration tokens).map Diagnostic.code ∧
        primaryCount tokens < 2) := by
  refine ⟨?_, fun diagnostics => finish_of_compile_error, ?_, ?_, ?_, ?_⟩
  · intro clean
    obtain ⟨read, spec, run, assembled⟩ := exists_assemble_of_finish clean
    exact ⟨read, spec, run, assembled, compile_of_assemble clean run assembled⟩
  · rw [unused_mem_codes_iff]
    simp only [assemble_eq_unused_iff, delimiterCount_buildParts, exists_and_left,
      Option.ne_none_iff_exists', ne_eq]
  · intro separator failed
    obtain ⟨absent, configured⟩ := assemble_eq_unused_iff.mp failed
    rw [delimiterCount_buildParts] at absent
    rw [filter_checkTokens, checkSeparator_eq, if_pos absent, configured]
    rfl
  · intro count
    rw [assemble_eq_multiple_iff, delimiterCount_buildParts]
  · rw [assemble_ok_iff, unused_mem_codes_iff, delimiterCount_buildParts]
    by_cases absent : primaryCount tokens = 0
    · simp [absent]
    · simp only [absent, false_and, or_false, not_false_eq_true, true_and]
      omega

end Agreement

def twoPropertyKey (template : String) (separator : Option Char) : KeyDeclaration :=
  ⟨((TargetType.ofName "Key").withProperty (.ofType "A" .plainGuid)).withProperty
    (.ofType "B" .plainString), ⟨template, separator, true⟩⟩

theorem assembler_agrees_on_two_properties :
    (∃ spec, compile (twoPropertyKey "{A}|{B}" (some '|')) = .ok spec) ∧
      (twoPropertyKey "{A}#{B}" (some '|')).validated.finish =
        .error (.single (.unusedPrimarySeparator '|')) ∧
      (checkTokens (twoPropertyKey "" (some '|')) []).filter
          (fun found => found.code = .unusedPrimarySeparator) =
        [.unusedPrimarySeparator '|'] := by
  refine ⟨?_, ?_, ?_⟩
  · have clean : (twoPropertyKey "{A}|{B}" (some '|')).validated.finish = .ok () := by
      decide +kernel
    obtain ⟨_, spec, _, _, compiled⟩ := (assembler_never_disagrees _ []).1 clean
    exact ⟨spec, compiled⟩
  · have refused : compile (twoPropertyKey "{A}#{B}" (some '|')) =
        .error (.single (.unusedPrimarySeparator '|')) := by
      decide +kernel
    exact (assembler_never_disagrees _ []).2.1 _ refused
  · have failed : assemble
        (buildParts (twoPropertyKey "" (some '|')).target []).parts
        (twoPropertyKey "" (some '|')).config = .error (.unusedPrimarySeparator '|') := rfl
    exact (assembler_never_disagrees _ []).2.2.2.1 '|' failed

end CompositeKey
