import CompositeKey.Proofs.Compile.Agreement
import CompositeKey.Proofs.Diagnostic.References
import CompositeKey.Proofs.Template.FailFast

/-!
# Where diagnostics point

A diagnostic about a property points at a token of the template that names it,
one about a malformed template points into it, and every other one points nowhere.
The name and the place of a property come by different ways: from a token, from
the first token that names it, or from the property that the target type has.
-/

set_option autoImplicit false

namespace CompositeKey

def unplacedCodes : List DiagnosticCode :=
  [.unsupportedTargetShape, .targetNotPartial, .ambiguousConstructor, .unusedPrimarySeparator]

def propertyCodes : List DiagnosticCode :=
  [.unresolvedProperty, .inaccessibleProperty, .invalidFormatForType,
    .nonCollectionRepeatingProperty, .collectionMissingRepeatingMarker, .unsupportedPropertyType,
    .misplacedRepeatingPart]

theorem not_mem_unplacedCodes : ∀ code ∈ propertyCodes, code ∉ unplacedCodes := by decide

/-- A diagnostic is about the property of a token, and stands where the token does. -/
structure Diagnostic.PointsAt (diagnostic : Diagnostic) (tokens : List Token) (token : Token) :
    Prop where
  member : token ∈ tokens
  range : diagnostic.range = some token.range
  subject : ∃ name, diagnostic.subject = some name ∧ token.value.propertyName? = some name
  first : diagnostic.code = .inaccessibleProperty →
    ∀ name ∈ diagnostic.subject, firstNaming? name tokens = some token
  repeats : diagnostic.code ∈ [.nonCollectionRepeatingProperty, .misplacedRepeatingPart] →
    token.value.isRepeating = true
  scalar : diagnostic.code = .collectionMissingRepeatingMarker → token.value.isRepeating = false

/-- Every range can be cut out of the template, and what is cut out for a property
is one token with the property's name. -/
structure Diagnostic.IsPlaced (declaration : KeyDeclaration) (diagnostic : Diagnostic) : Prop where
  isWithin : ∀ range ∈ diagnostic.range, range.IsWithin declaration.config.template.toList
  property : diagnostic.code ∈ propertyCodes →
    ∃ tokens token, declaration.tokens = .ok tokens ∧ diagnostic.PointsAt tokens token ∧
      slice? declaration.config.template.toList token.range = some token.value.written
  unplaced : diagnostic.code ∈ unplacedCodes → diagnostic.range = none

inductive Diagnostic.Origin (declaration : KeyDeclaration) (diagnostic : Diagnostic) : Prop where
  | declaration (unplaced : diagnostic.code ∈ unplacedCodes) (range : diagnostic.range = none)
  | template {failure : TokenizeError} (failed : declaration.tokens = .error failure)
      (same : diagnostic = .tokenizationFailure failure)
  | property {tokens : List Token} {token : Token} (run : declaration.tokens = .ok tokens)
      (placed : diagnostic.code ∈ propertyCodes) (points : diagnostic.PointsAt tokens token)

structure PartError.IsAbout (failure : PartError) (token : Token) : Prop where
  name : token.value.propertyName? = some failure.name
  range : failure.range = token.range
  repeats : Diagnostic.partErrorCode failure = .nonCollectionRepeatingProperty →
    token.value.isRepeating = true
  scalar : Diagnostic.partErrorCode failure = .collectionMissingRepeatingMarker →
    token.value.isRepeating = false

namespace PartError

variable {target : TargetType} {token : Token} {failure : PartError}

theorem isAbout_ofClassifyError {property : PropertyInfo} (type : TypeInfo)
    (format : Option String) (cause : ClassifyError)
    (named : token.value.propertyName? = some property.name) :
    (ofClassifyError property type format token.range cause).IsAbout token := by
  cases cause with
  | invalidFormat => cases format <;> exact ⟨named, rfl, nofun, nofun⟩
  | _ => exact ⟨named, rfl, nofun, nofun⟩

theorem isAbout_of_buildPart (keyed : KeyedByName target.properties)
    (failed : buildPart target token = .error failure) : failure.IsAbout token := by
  obtain ⟨value, range⟩ := token
  cases value with
  | property name format =>
      cases declared : target.property? name with
      | none =>
          simp only [buildPart, declared] at failed
          cases failed
          refine ⟨rfl, rfl, ?_, ?_⟩ <;> intro code <;> cases code
      | some property =>
          have named : (Token.mk (.property name format) range).value.propertyName? =
              some property.name := congrArg some (keyed name property declared).symm
          simp only [buildPart, declared, scalarPart] at failed
          split at failed
          · cases failed
          · cases failed
            refine ⟨rfl, rfl, ?_, fun _ => rfl⟩
            intro code
            cases code
          · cases failed
            exact isAbout_ofClassifyError _ _ _ named
  | repeatingProperty name separator format =>
      cases declared : target.property? name with
      | none =>
          simp only [buildPart, declared] at failed
          cases failed
          refine ⟨rfl, rfl, ?_, ?_⟩ <;> intro code <;> cases code
      | some property =>
          have named : (Token.mk (.repeatingProperty name separator format)
              range).value.propertyName? = some property.name :=
            congrArg some (keyed name property declared).symm
          simp only [buildPart, declared, repeatingPart] at failed
          split at failed
          · cases failed
            refine ⟨rfl, rfl, fun _ => rfl, ?_⟩
            intro code
            cases code
          · split at failed
            · cases failed
            · cases failed
              exact isAbout_ofClassifyError _ _ _ named
  | _ => cases failed

end PartError

section Checks

variable {target : TargetType} {tokens : List Token} {diagnostic : Diagnostic}

theorem pointsAt_of_mem_checkParts (keyed : KeyedByName target.properties)
    (member : diagnostic ∈ checkParts (buildParts target tokens)) :
    diagnostic.code ∈ propertyCodes ∧ ∃ token, diagnostic.PointsAt tokens token := by
  rw [checkParts_eq_map] at member
  obtain ⟨failure, failed, rfl⟩ := List.mem_map.mp member
  rw [errors_buildParts] at failed
  obtain ⟨token, found, built⟩ := List.mem_filterMap.mp failed
  have about := PartError.isAbout_of_buildPart keyed (partFailure?_eq_some_iff.mp built)
  constructor
  · cases failure <;> simp [Diagnostic.partError, Diagnostic.partErrorCode, propertyCodes]
  · refine ⟨token, found, congrArg some about.range, ⟨failure.name, rfl, about.name⟩, ?_, ?_,
      about.scalar⟩
    · intro code
      cases failure <;> cases code
    · intro code
      apply about.repeats
      cases failure <;> simp_all [Diagnostic.partError, Diagnostic.partErrorCode]

theorem pointsAt_of_mem_checkPlacement (member : diagnostic ∈ checkPlacement tokens) :
    diagnostic.code ∈ propertyCodes ∧ ∃ token, diagnostic.PointsAt tokens token := by
  obtain ⟨token, found, name, separator, format, label, value, rfl⟩ :=
    exists_token_of_mem_checkPlacement member
  have named : token.value.propertyName? = some name := by rw [value]; rfl
  have repeats : token.value.isRepeating = true := by rw [value]; rfl
  refine ⟨?_, token, found, rfl, ⟨name, rfl, named⟩, nofun, fun _ => repeats, nofun⟩
  simp [Diagnostic.misplacedRepeatingPart, propertyCodes]

theorem pointsAt_of_reference {reference : Reference}
    (referenced : reference ∈ references target tokens) (access : Access) :
    ∃ token, (Diagnostic.inaccessibleProperty reference.name reference.range access).PointsAt
      tokens token := by
  obtain ⟨token, first, range⟩ := firstNaming?_of_mem_referencesFrom referenced
  obtain ⟨found, named⟩ := mem_of_firstNaming? first
  refine ⟨token, found, congrArg some range.symm, ⟨reference.name, rfl, named⟩, ?_, ?_, nofun⟩
  · rintro _ name ⟨⟩
    exact first
  · intro code
    simp [Diagnostic.inaccessibleProperty] at code

end Checks

/-! ## Where the diagnostics of a declaration point -/

section Declarations

variable {declaration : KeyDeclaration} {diagnostic : Diagnostic}

theorem origin_of_mem_checkTarget (member : diagnostic ∈ checkTarget declaration.target) :
    diagnostic.Origin declaration := by
  rcases cases_of_mem_checkTarget member with rfl | rfl
  · exact .declaration (by simp [Diagnostic.unsupportedTargetShape, unplacedCodes]) rfl
  · exact .declaration (by simp [Diagnostic.targetNotPartial, unplacedCodes]) rfl

theorem origin_of_mem_checkTokens {tokens : List Token} (run : declaration.tokens = .ok tokens)
    (member : diagnostic ∈ checkTokens declaration tokens) : diagnostic.Origin declaration := by
  simp only [checkTokens_eq_append, List.mem_append] at member
  rcases member with (separator | members) | placement
  · obtain ⟨c, rfl⟩ := exists_separator_of_mem_checkSeparator separator
    exact .declaration (by simp [Diagnostic.unusedPrimarySeparator, unplacedCodes]) rfl
  · rcases cases_of_mem_checkMembers members with
      ⟨failure, rfl⟩ | ⟨reference, referenced, access, rfl⟩
    · cases failure with
      | noMatch =>
          exact .declaration (by simp [Diagnostic.constructorError,
            Diagnostic.noMatchingConstructor, unplacedCodes]) rfl
      | ambiguous candidates =>
          exact .declaration (by simp [Diagnostic.constructorError,
            Diagnostic.ambiguousConstructor, unplacedCodes]) rfl
    · obtain ⟨token, points⟩ := pointsAt_of_reference referenced access
      exact .property run (by simp [Diagnostic.inaccessibleProperty, propertyCodes]) points
  · obtain ⟨code, token, points⟩ := pointsAt_of_mem_checkPlacement placement
    exact .property run code points

theorem origin_of_mem_validated (keyed : KeyedByName declaration.target.properties)
    (member : diagnostic ∈ declaration.validated.found) : diagnostic.Origin declaration := by
  rw [found_validated] at member
  rcases List.mem_append.mp member with target | template
  · exact origin_of_mem_checkTarget target
  · cases run : declaration.tokens with
    | error failure =>
        rw [run] at template
        exact .template run (List.mem_singleton.mp template)
    | ok tokens =>
        rw [run] at template
        rcases List.mem_append.mp template with found | parts
        · exact origin_of_mem_checkTokens run found
        · obtain ⟨code, token, points⟩ := pointsAt_of_mem_checkParts keyed parts
          exact .property run code points

/-- A diagnostic about a property has the range of a token with that name, and the
text there is the token. -/
theorem diagnostics_point_at_template {diagnostics : Diagnostics}
    (keyed : KeyedByName declaration.target.properties)
    (small : byteLength declaration.config.template.toList ≤ maxOffset)
    (refused : compile declaration = .error diagnostics)
    (member : diagnostic ∈ diagnostics.toList) : diagnostic.IsPlaced declaration := by
  rw [toList_of_finish_error (finish_of_compile_error refused)] at member
  cases origin_of_mem_validated keyed member with
  | declaration unplaced range =>
      refine ⟨?_, ?_, fun _ => range⟩
      · simp [range]
      · intro placed
        exact absurd unplaced (not_mem_unplacedCodes _ placed)
  | template failed same =>
      subst same
      exact ⟨isWithin_of_tokenize_error small failed, nofun, nofun⟩
  | @property tokens token run placed points =>
      obtain ⟨_, _, reading⟩ := tokenize_eq_ok_iff.mp run
      have slice := reading.slice?_range small points.member
      refine ⟨?_, fun _ => ⟨tokens, token, run, points, slice⟩, ?_⟩
      · rw [points.range]
        rintro range ⟨⟩
        exact isWithin_of_slice? slice
      · intro unplaced
        exact absurd unplaced (not_mem_unplacedCodes _ placed)

end Declarations

def arrowKey : KeyDeclaration :=
  ⟨((((TargetType.ofName "Key").withPartial false).withProperty
    (PropertyInfo.ofType "A" .plainGuid).writeOnly).withProperty
    (.ofType "B" .plainString)).withProperty (.ofType "Tags" (.collection "List" .plainString)),
    ⟨"é{Tags...→}{A:Q}→{A}{B...,}{Tags}{Missing}", some '→', true⟩⟩

theorem diagnostics_of_arrow_key :
    ∃ diagnostics, compile arrowKey = .error diagnostics ∧
      (diagnostics.toList.map fun found => (found.code, found.range.map TextRange.start)) =
        [(.targetNotPartial, none), (.inaccessibleProperty, some 14),
          (.misplacedRepeatingPart, some 2), (.misplacedRepeatingPart, some 25),
          (.invalidFormatForType, some 14), (.nonCollectionRepeatingProperty, some 25),
          (.collectionMissingRepeatingMarker, some 32), (.unresolvedProperty, some 38)] ∧
      ∀ diagnostic ∈ diagnostics.toList, diagnostic.IsPlaced arrowKey := by
  have found : (arrowKey.validated.found.map fun found =>
      (found.code, found.range.map TextRange.start)) =
        [(.targetNotPartial, none), (.inaccessibleProperty, some 14),
          (.misplacedRepeatingPart, some 2), (.misplacedRepeatingPart, some 25),
          (.invalidFormatForType, some 14), (.nonCollectionRepeatingProperty, some 25),
          (.collectionMissingRepeatingMarker, some 32), (.unresolvedProperty, some 38)] := by
    decide +kernel
  have keyed : KeyedByName arrowKey.target.properties :=
    ((KeyedByName.empty.insert _).insert _).insert _
  cases refused : compile arrowKey with
  | ok spec =>
      have clean := finish_ok_iff.mp (finish_of_compile_ok refused).1
      rw [clean] at found
      cases found
  | error diagnostics =>
      have same := toList_of_finish_error (finish_of_compile_error refused)
      refine ⟨diagnostics, rfl, ?_, ?_⟩
      · rw [same]
        exact found
      · intro diagnostic member
        exact diagnostics_point_at_template keyed (by decide +kernel) refused member

end CompositeKey
