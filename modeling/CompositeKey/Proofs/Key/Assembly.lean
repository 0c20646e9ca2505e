import CompositeKey.Key.Spec

/-!
# Assembling parts into a specification

Whether parts make a specification, and which, depends on the number of their
primary delimiters and on the configured separator alone.
-/

set_option autoImplicit false

namespace CompositeKey

variable {parts : List KeyPart} {config : KeyConfig}

def delimiterCount (parts : List KeyPart) : Nat := parts.countP KeyPart.isPrimaryDelimiter

theorem delimiterCount_cases (parts : List KeyPart) :
    delimiterCount parts = 0 ∨ delimiterCount parts = 1 ∨ 2 ≤ delimiterCount parts := by
  omega

theorem splitAtDelimiter_cons {part : KeyPart} (rest : List KeyPart)
    (other : part.isPrimaryDelimiter = false) :
    splitAtDelimiter (part :: rest) =
      (splitAtDelimiter rest).map fun found => (part :: found.1, found.2.1, found.2.2) := by
  cases part with
  | primaryDelimiter delimiter => simp [KeyPart.isPrimaryDelimiter] at other
  | _ => rfl

theorem splitAtDelimiter_eq_none_iff :
    splitAtDelimiter parts = none ↔ delimiterCount parts = 0 := by
  induction parts with
  | nil => simp [splitAtDelimiter, delimiterCount]
  | cons part rest ih =>
      cases primary : part.isPrimaryDelimiter with
      | false =>
          rw [splitAtDelimiter_cons rest primary, Option.map_eq_none_iff, ih]
          simp [delimiterCount, primary]
      | true =>
          cases part with
          | primaryDelimiter delimiter =>
              simp [splitAtDelimiter, delimiterCount, KeyPart.isPrimaryDelimiter]
          | _ => simp [KeyPart.isPrimaryDelimiter] at primary

theorem splitAtDelimiter_eq_some {before after : List KeyPart} {delimiter : DelimiterPart}
    (split : splitAtDelimiter parts = some (before, delimiter, after)) :
    parts = before ++ .primaryDelimiter delimiter :: after ∧ delimiterCount before = 0 := by
  induction parts generalizing before with
  | nil => simp [splitAtDelimiter] at split
  | cons part rest ih =>
      cases primary : part.isPrimaryDelimiter with
      | false =>
          rw [splitAtDelimiter_cons rest primary, Option.map_eq_some_iff] at split
          obtain ⟨⟨first, middle, last⟩, found, same⟩ := split
          simp only [Prod.mk.injEq] at same
          obtain ⟨rfl, rfl, rfl⟩ := same
          obtain ⟨whole, free⟩ := ih found
          refine ⟨by rw [whole]; rfl, ?_⟩
          simpa [delimiterCount, primary] using free
      | true =>
          cases part with
          | primaryDelimiter found =>
              simp only [splitAtDelimiter, Option.some.injEq, Prod.mk.injEq] at split
              obtain ⟨rfl, rfl, rfl⟩ := split
              exact ⟨rfl, rfl⟩
          | _ => simp [KeyPart.isPrimaryDelimiter] at primary

theorem delimiterCount_of_split {before after : List KeyPart} {delimiter : DelimiterPart}
    (split : splitAtDelimiter parts = some (before, delimiter, after)) :
    delimiterCount parts = delimiterCount after + 1 := by
  obtain ⟨rfl, free⟩ := splitAtDelimiter_eq_some split
  simp only [delimiterCount] at free ⊢
  rw [List.countP_append, free, List.countP_cons_of_pos rfl, Nat.zero_add]

theorem any_isPrimaryDelimiter_eq (parts : List KeyPart) :
    parts.any KeyPart.isPrimaryDelimiter = decide (0 < delimiterCount parts) := by
  rw [Bool.eq_iff_iff]
  simp [delimiterCount, List.countP_pos_iff]

theorem assemble_of_delimiterCount_eq_zero (free : delimiterCount parts = 0) :
    assemble parts config =
      match config.primarySeparator with
      | some separator => .error (.unusedPrimarySeparator separator)
      | none => .ok (.primary ⟨parts, config.invariantFormatting⟩) := by
  have split := splitAtDelimiter_eq_none_iff.mpr free
  cases separator : config.primarySeparator <;> simp [assemble, split, separator]

theorem assemble_of_delimiterCount_eq_one (config : KeyConfig)
    (single : delimiterCount parts = 1) :
    ∃ spec : CompositeSpec, assemble parts config = .ok (.composite spec) ∧
      parts = spec.partition ++ .primaryDelimiter spec.delimiter :: spec.sort ∧
      delimiterCount spec.partition = 0 ∧ delimiterCount spec.sort = 0 ∧
      spec.invariantFormatting = config.invariantFormatting := by
  cases split : splitAtDelimiter parts with
  | none => simp [splitAtDelimiter_eq_none_iff.mp split] at single
  | some found =>
      obtain ⟨before, delimiter, after⟩ := found
      have count := delimiterCount_of_split split
      have behind : delimiterCount after = 0 := by omega
      obtain ⟨whole, free⟩ := splitAtDelimiter_eq_some split
      refine ⟨⟨before, delimiter, after, config.invariantFormatting⟩, ?_, whole, free, behind, rfl⟩
      simp [assemble, split, any_isPrimaryDelimiter_eq, behind]

theorem assemble_of_two_le_delimiterCount (several : 2 ≤ delimiterCount parts) :
    assemble parts config = .error (.multiplePrimaryDelimiters (delimiterCount parts)) := by
  cases split : splitAtDelimiter parts with
  | none =>
      rw [splitAtDelimiter_eq_none_iff.mp split] at several
      omega
  | some found =>
      obtain ⟨before, delimiter, after⟩ := found
      have count := delimiterCount_of_split split
      have behind : 0 < delimiterCount after := by omega
      simp only [assemble, split, any_isPrimaryDelimiter_eq, behind, decide_true, if_true]
      rfl

theorem assemble_eq_unused_iff {separator : Char} :
    assemble parts config = .error (.unusedPrimarySeparator separator) ↔
      delimiterCount parts = 0 ∧ config.primarySeparator = some separator := by
  rcases delimiterCount_cases parts with none | single | several
  · rw [assemble_of_delimiterCount_eq_zero none]
    cases config.primarySeparator with
    | none => simp
    | some configured => simp [none]
  · obtain ⟨spec, success, _⟩ := assemble_of_delimiterCount_eq_one config single
    simp [success, single]
  · rw [assemble_of_two_le_delimiterCount several]
    simp only [Except.error.injEq, reduceCtorEq, false_iff, not_and]
    omega

theorem assemble_eq_multiple_iff {count : Nat} :
    assemble parts config = .error (.multiplePrimaryDelimiters count) ↔
      2 ≤ count ∧ count = delimiterCount parts := by
  rcases delimiterCount_cases parts with none | single | several
  · rw [assemble_of_delimiterCount_eq_zero none, none]
    cases config.primarySeparator with
    | none => simp; omega
    | some configured => simp; omega
  · obtain ⟨spec, success, _⟩ := assemble_of_delimiterCount_eq_one config single
    simp [success, single]
    omega
  · rw [assemble_of_two_le_delimiterCount several]
    simp only [Except.error.injEq, AssembleError.multiplePrimaryDelimiters.injEq]
    omega

theorem assemble_ok_iff :
    (∃ spec, assemble parts config = .ok spec) ↔
      delimiterCount parts = 1 ∨ delimiterCount parts = 0 ∧ config.primarySeparator = none := by
  rcases delimiterCount_cases parts with none | single | several
  · rw [assemble_of_delimiterCount_eq_zero none]
    cases config.primarySeparator with
    | none => simp [none]
    | some configured => simp [none]
  · obtain ⟨spec, success, _⟩ := assemble_of_delimiterCount_eq_one config single
    simp [success, single]
  · rw [assemble_of_two_le_delimiterCount several]
    simp only [reduceCtorEq, exists_false, false_iff]
    omega

namespace KeySpec

def sections : KeySpec → List (List KeyPart)
  | .primary spec => [spec.parts]
  | .composite spec => [spec.partition, spec.sort]

end KeySpec

theorem isPrimaryDelimiter_of_delimiterCount_eq_zero (free : delimiterCount parts = 0) :
    ∀ part ∈ parts, part.isPrimaryDelimiter = false := by
  simpa [delimiterCount, List.countP_eq_zero] using free

theorem assemble_ok_cases {spec : KeySpec} (assembled : assemble parts config = .ok spec) :
    (spec = .primary ⟨parts, config.invariantFormatting⟩ ∧ delimiterCount parts = 0 ∧
        config.primarySeparator = none) ∨
      ∃ whole : CompositeSpec, spec = .composite whole ∧ whole.parts = parts ∧
        delimiterCount parts = 1 ∧ delimiterCount whole.partition = 0 ∧
        delimiterCount whole.sort = 0 ∧
        whole.invariantFormatting = config.invariantFormatting := by
  rcases assemble_ok_iff.mp ⟨spec, assembled⟩ with single | ⟨free, unconfigured⟩
  · obtain ⟨whole, success, split, before, after, formatting⟩ :=
      assemble_of_delimiterCount_eq_one config single
    rw [success, Except.ok.injEq] at assembled
    exact .inr ⟨whole, assembled.symm, split.symm, single, before, after, formatting⟩
  · rw [assemble_of_delimiterCount_eq_zero free, unconfigured, Except.ok.injEq] at assembled
    exact .inl ⟨assembled.symm, free, unconfigured⟩

theorem parts_of_assemble {spec : KeySpec} (assembled : assemble parts config = .ok spec) :
    spec.parts = parts := by
  rcases assemble_ok_cases assembled with ⟨rfl, _⟩ | ⟨whole, rfl, same, _⟩
  · rfl
  · exact same

theorem divided_of_assemble {whole : CompositeSpec}
    (assembled : assemble parts config = .ok (.composite whole)) :
    delimiterCount parts = 1 ∧
      whole.partition ++ [.primaryDelimiter whole.delimiter] ++ whole.sort = parts := by
  rcases assemble_ok_cases assembled with ⟨other, _⟩ | ⟨found, same, split, single, _⟩
  · cases other
  · cases same
    refine ⟨single, ?_⟩
    rw [← split, CompositeSpec.parts, List.append_assoc, List.singleton_append]

theorem sections_of_assemble {spec : KeySpec} (assembled : assemble parts config = .ok spec) :
    spec.sections = parts.splitOnP KeyPart.isPrimaryDelimiter := by
  rcases assemble_ok_cases assembled with ⟨rfl, free, _⟩ | ⟨whole, rfl, same, _, before, after, _⟩
  · rw [List.splitOnP_eq_singleton (isPrimaryDelimiter_of_delimiterCount_eq_zero free)]
    rfl
  · rw [← same, CompositeSpec.parts,
      List.splitOnP_append_cons_of_forall_mem
        (isPrimaryDelimiter_of_delimiterCount_eq_zero before) _ rfl,
      List.splitOnP_eq_singleton (isPrimaryDelimiter_of_delimiterCount_eq_zero after)]
    rfl

end CompositeKey
