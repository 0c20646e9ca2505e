import CompositeKey.Proofs.Compile.Conditions
import CompositeKey.Proofs.Template.Ranges

/-!
# A specification is the image of its template

The parts of a specification are the tokens of the template, one for one.  They
cover the template without a gap, they are written as it is, and sections are
what the primary delimiter leaves of them.
-/

set_option autoImplicit false

namespace CompositeKey

def KeyPart.written (part : KeyPart) : List Char := part.token.value.written

/-- A specification says what the template says that was read as these tokens. -/
structure IsImage (declaration : KeyDeclaration) (tokens : List Token) (spec : KeySpec) :
    Prop where
  parts : List.Forall₂ (IsPartOf declaration.target) tokens spec.parts
  contiguous : Contiguous 0 (spec.parts.map KeyPart.range)
    (byteLength declaration.config.template.toList)
  written : spec.parts.flatMap KeyPart.written = declaration.config.template.toList
  composite : spec.isComposite = true ↔ declaration.config.primarySeparator ≠ none
  divided : ∀ whole, spec = .composite whole →
    declaration.config.primarySeparator = some whole.delimiter.value ∧
      delimiterCount spec.parts = 1 ∧
      whole.partition ++ [.primaryDelimiter whole.delimiter] ++ whole.sort = spec.parts
  repeating : ∀ parts ∈ spec.sections, ∀ part ∈ parts.dropLast, part.isRepeating = false

theorem splitOnP_map {α β : Type} (f : α → β) (p : β → Bool) (list : List α) :
    (list.map f).splitOnP p = (list.splitOnP fun item => p (f item)).map (List.map f) := by
  induction list with
  | nil => rfl
  | cons item rest ih =>
      rw [List.map_cons, List.splitOnP_cons_eq_if_modifyHead, ih,
        List.splitOnP_cons_eq_if_modifyHead]
      split
      · rfl
      · cases rest.splitOnP fun item => p (f item) <;> rfl

theorem isPrimaryDelimiter_token (part : KeyPart) :
    part.token.value.isPrimaryDelimiter = part.isPrimaryDelimiter := by
  cases part <;> rfl

theorem isRepeating_token (part : KeyPart) :
    part.token.value.isRepeating = part.isRepeating := by
  cases part <;> rfl

theorem isRepeating_of_sections {parts : List KeyPart}
    (placed : placementCodes (parts.map KeyPart.token) = []) :
    ∀ partsOfSection ∈ parts.splitOnP KeyPart.isPrimaryDelimiter,
      ∀ part ∈ partsOfSection.dropLast, part.isRepeating = false := by
  intro partsOfSection found part member
  have split := isRepeating_of_placementCodes placed (partsOfSection.map KeyPart.token)
  simp only [splitOnP_map, isPrimaryDelimiter_token] at split
  rw [← isRepeating_token]
  refine split (List.mem_map_of_mem found) part.token ?_
  rw [← List.map_dropLast]
  exact List.mem_map_of_mem member

theorem separator_of_mem {template : String} {separator : Option Char} {tokens : List Token}
    {delimiter : DelimiterPart} (run : tokenize template separator = .ok tokens)
    (member : (KeyPart.primaryDelimiter delimiter).token ∈ tokens) :
    separator = some delimiter.value := by
  obtain ⟨canonical, _⟩ := canonical_of_tokenize run
  exact canonical.wellFormed _ (List.mem_map_of_mem member)

/-- A specification is the image of its template: one part for each token, in
order, that covers the same text. -/
theorem compile_gives_image {declaration : KeyDeclaration} {spec : KeySpec}
    (keyed : KeyedByName declaration.target.properties)
    (small : byteLength declaration.config.template.toList ≤ maxOffset)
    (compiled : compile declaration = .ok spec) :
    ∃ tokens, declaration.tokens = .ok tokens ∧ IsImage declaration tokens spec := by
  obtain ⟨_, tokens, run, assembled⟩ := finish_of_compile_ok compiled
  -- No condition holds, so every token is a part and repeating ones are in place.
  have none := conditionCodes_of_compile compiled
  simp only [KeyDeclaration.conditionCodes, run, List.append_eq_nil_iff] at none
  obtain ⟨_, ⟨_, placed⟩, built⟩ := none
  have parts : List.Forall₂ (IsPartOf declaration.target) tokens spec.parts := by
    rw [parts_of_assemble assembled]
    exact isPartOf_parts_buildParts (errors_eq_nil_of_partCodes built)
  have same := map_token_of_isPartOf keyed parts
  obtain ⟨_, _, reading⟩ := tokenize_eq_ok_iff.mp run
  have divided : ∀ whole, spec = .composite whole →
      declaration.config.primarySeparator = some whole.delimiter.value ∧
        delimiterCount spec.parts = 1 ∧
        whole.partition ++ [.primaryDelimiter whole.delimiter] ++ whole.sort = spec.parts := by
    rintro whole rfl
    rw [parts_of_assemble assembled] at same ⊢
    obtain ⟨single, split⟩ := divided_of_assemble assembled
    refine ⟨separator_of_mem run ?_, single, split⟩
    rw [← same, ← split]
    exact List.mem_map_of_mem (by simp)
  refine ⟨tokens, run, parts, ?_, ?_, ?_, divided, ?_⟩
  · have ranges := reading.contiguous (by omega)
    rw [Nat.zero_add, ← same, List.map_map] at ranges
    exact ranges
  · rw [← reading.written, ← same, List.map_map, writtenTokens, List.flatMap_map]
    rfl
  · rcases assemble_ok_cases assembled with ⟨rfl, _, unconfigured⟩ | ⟨whole, rfl, _⟩
    · simp [KeySpec.isComposite, unconfigured]
    · simp [KeySpec.isComposite, (divided whole rfl).1]
  · rw [sections_of_assemble assembled, ← parts_of_assemble assembled]
    exact isRepeating_of_sections (same ▸ placed)

def orderKey : KeyDeclaration :=
  ⟨((TargetType.ofName "Key").withProperty (.ofType "Id" .plainGuid)).withProperty
    (.ofType "Tags" (.collection "List" .plainString)),
    ⟨"ORDER#{Id:N}|{Tags...,}", some '|', true⟩⟩

theorem image_of_order_key :
    ∃ spec tokens, compile orderKey = .ok spec ∧ orderKey.tokens = .ok tokens ∧
      IsImage orderKey tokens spec := by
  have keyed : KeyedByName orderKey.target.properties :=
    keyedByName_withProperty (keyedByName_withProperty (keyedByName_ofName "Key") _) _
  have clean : orderKey.validated.finish = .ok () := by decide +kernel
  obtain ⟨_, spec, run, assembled⟩ := exists_assemble_of_finish clean
  have compiled := compile_of_assemble clean run assembled
  obtain ⟨tokens, read, image⟩ := compile_gives_image keyed (by decide +kernel) compiled
  exact ⟨spec, tokens, compiled, read, image⟩

end CompositeKey
