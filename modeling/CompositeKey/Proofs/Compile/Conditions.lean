import CompositeKey.Proofs.Compile.Agreement
import CompositeKey.Proofs.Compile.Overflow
import CompositeKey.Proofs.Diagnostic.References
import CompositeKey.Proofs.Key.Classification
import CompositeKey.Proofs.Target.Selection

/-!
# The conditions a declaration has to meet

Each condition is stated on the declaration and the tokens of its template,
without the validator.  What `compile` reports are the codes of the conditions
that hold, in one fixed order, and it answers with a specification exactly when
none holds.
-/

set_option autoImplicit false

namespace CompositeKey

def codeIf (condition : Prop) [Decidable condition] (code : DiagnosticCode) :
    List DiagnosticCode :=
  if condition then [code] else []

def targetCodes (target : TargetType) : List DiagnosticCode :=
  codeIf (target.shape ∉ [.classType, .recordType, .structType]) .unsupportedTargetShape ++
    codeIf (target.isPartial = false) .targetNotPartial

def separatorCodes (config : KeyConfig) (tokens : List Token) : List DiagnosticCode :=
  codeIf (config.primarySeparator ≠ none ∧ ∀ token ∈ tokens, ¬ token.value.isPrimaryDelimiter)
    .unusedPrimarySeparator

def accessCodes (choice : Option ConstructorChoice) (name : String) (property : PropertyInfo) :
    List DiagnosticCode :=
  codeIf (property.getter = none) .inaccessibleProperty ++
    codeIf (∃ chosen ∈ choice, property.setter = none ∧
        ∀ parameter ∈ chosen.parameters, ¬ sameIgnoringCase parameter name)
      .inaccessibleProperty

/-- The constructor is chosen for all properties at once, accessors are looked at
for one property after the other. -/
def memberCodes (target : TargetType) (tokens : List Token) : List DiagnosticCode :=
  let names := declaredNames target tokens
  let choice := (selectConstructor target.constructors names).toOption
  codeIf (choice = none) .ambiguousConstructor ++
    names.flatMap fun name =>
      (target.property? name).toList.flatMap fun property => accessCodes choice name property

/-- One code for each repeating property in front of another token of its
section. -/
def placementCodes (tokens : List Token) : List DiagnosticCode :=
  (tokens.splitOnP fun token => token.value.isPrimaryDelimiter).flatMap fun tokensOfSection =>
    (tokensOfSection.dropLast.filter fun token => token.value.isRepeating).map fun _ =>
      .misplacedRepeatingPart

def guidSpecifiers : List String := ["D", "d", "N", "n", "B", "b", "P", "p", "X", "x"]

def valueCode? (format : Option String) : TypeInfo → Option DiagnosticCode
  | .guid _ => if ∃ text ∈ format, text ∉ guidSpecifiers then some .invalidFormatForType else none
  | .string _ => if format.isSome then some .invalidFormatForType else none
  | .enumeration _ _ => if format.isSome then some .invalidFormatForType else none
  | .value _ capabilities =>
      if ¬ (capabilities.spanParsable ∨ capabilities.parsable) then some .unsupportedPropertyType
      else if format.isSome ∧ ¬ (capabilities.spanFormattable ∨ capabilities.formattable) then
        some .invalidFormatForType
      else none
  | .collection _ _ => some .unsupportedPropertyType

def partCode? (target : TargetType) (token : Token) : Option DiagnosticCode :=
  match token.value with
  | .property name format =>
      match target.property? name with
      | none => some .unresolvedProperty
      | some property =>
          if property.type.isCollection then some .collectionMissingRepeatingMarker
          else valueCode? format property.type
  | .repeatingProperty name _ format =>
      match target.property? name with
      | none => some .unresolvedProperty
      | some property =>
          match property.type.element? with
          | none => some .nonCollectionRepeatingProperty
          | some element => valueCode? format element
  | _ => none

def KeyDeclaration.conditionCodes (declaration : KeyDeclaration) : List DiagnosticCode :=
  targetCodes declaration.target ++
    match declaration.tokens with
    | .error _ => [.tokenizationFailure]
    | .ok tokens =>
        separatorCodes declaration.config tokens ++ memberCodes declaration.target tokens ++
          placementCodes tokens ++ tokens.filterMap (partCode? declaration.target)

theorem codes_checkTarget (target : TargetType) :
    (checkTarget target).map Diagnostic.code = targetCodes target := by
  have shape : (if target.shape.isAugmentable then [] else
      [Diagnostic.unsupportedTargetShape target]).map Diagnostic.code =
      codeIf (target.shape ∉ [.classType, .recordType, .structType]) .unsupportedTargetShape := by
    cases target.shape <;> rfl
  have modifier : (if target.isPartial then [] else
      [Diagnostic.targetNotPartial target]).map Diagnostic.code =
      codeIf (target.isPartial = false) .targetNotPartial := by
    cases target.isPartial <;> rfl
  rw [checkTarget_eq_append, List.map_append, shape, modifier, targetCodes]

theorem codes_checkSeparator (config : KeyConfig) (tokens : List Token) :
    (checkSeparator config tokens).map Diagnostic.code = separatorCodes config tokens := by
  have absent : primaryCount tokens = 0 ↔ ∀ token ∈ tokens, ¬ token.value.isPrimaryDelimiter :=
    List.countP_eq_zero
  rw [checkSeparator_eq, separatorCodes, codeIf]
  simp only [← absent]
  cases config.primarySeparator with
  | none => simp
  | some separator =>
      by_cases none : primaryCount tokens = 0
      · simp [none, Diagnostic.unusedPrimarySeparator]
      · simp [none]

theorem codes_checkAccess (choice : Option ConstructorChoice) (reference : Reference) :
    (checkAccess choice reference).map Diagnostic.code =
      accessCodes choice reference.name reference.property := by
  obtain ⟨name, ⟨own, type, getter, setter⟩, range⟩ := reference
  have read : (if getter.isSome then [] else [Diagnostic.inaccessibleProperty name range .read]).map
      Diagnostic.code = codeIf (getter = none) .inaccessibleProperty := by
    cases getter <;> rfl
  simp only [checkAccess_eq_append, accessCodes, PropertyInfo.isReadable, List.map_append]
  refine congrArg₂ (· ++ ·) read ?_
  cases choice with
  | none => simp [codeIf]
  | some chosen =>
      simp only [Option.mem_some, exists_eq_left', ← binds_eq_false_iff, PropertyInfo.isWritable]
      cases setter <;> cases bound : chosen.binds name <;>
        simp [codeIf, Diagnostic.inaccessibleProperty]

theorem codes_references (target : TargetType) (tokens : List Token)
    (choice : Option ConstructorChoice) :
    ((references target tokens).flatMap (checkAccess choice)).map Diagnostic.code =
      (declaredNames target tokens).flatMap fun name =>
        (target.property? name).toList.flatMap fun property =>
          accessCodes choice name property := by
  rw [List.map_flatMap, ← names_references, List.flatMap_map]
  refine List.flatMap_congr ?_
  intro reference member
  rw [codes_checkAccess, property?_of_mem_referencesFrom member]
  simp

theorem codes_checkMembers (target : TargetType) (tokens : List Token) :
    (checkMembers target tokens).map Diagnostic.code = memberCodes target tokens := by
  simp only [checkMembers_eq_flatMap, memberCodes, names_references]
  cases chosen : selectConstructor target.constructors (declaredNames target tokens) with
  | ok choice => simp [codes_references, Except.toOption, codeIf]
  | error failure =>
      have code : (Diagnostic.constructorError target failure).code = .ambiguousConstructor := by
        cases failure <;> rfl
      simp [codes_references, Except.toOption, codeIf, code]

theorem codes_checkSection (place : Diagnostic.Section) (tokens : List Token) :
    (checkSection place tokens).map Diagnostic.code =
      (tokens.dropLast.filter fun token => token.value.isRepeating).map fun _ =>
        .misplacedRepeatingPart := by
  rw [checkSection_eq_flatMap]
  induction tokens.dropLast with
  | nil => rfl
  | cons token rest ih =>
      rw [List.flatMap_cons, List.map_append, ih, List.filter_cons]
      cases token.value <;> rfl

theorem codes_checkPlacement (tokens : List Token) :
    (checkPlacement tokens).map Diagnostic.code = placementCodes tokens := by
  rw [placementCodes, ← sections_eq, checkPlacement_eq_append]
  simp only [List.flatMap_cons]
  split
  · rename_i single
    rw [codes_checkSection, List.isEmpty_iff.mp single, List.flatMap_nil, List.append_nil]
  · rw [List.map_append, codes_checkSection, List.map_flatMap]
    simp only [codes_checkSection]

theorem isRepeating_of_placementCodes {tokens : List Token} (placed : placementCodes tokens = []) :
    ∀ tokensOfSection ∈ tokens.splitOnP fun token => token.value.isPrimaryDelimiter,
      ∀ token ∈ tokensOfSection.dropLast, token.value.isRepeating = false := by
  intro tokensOfSection found
  have none := List.flatMap_eq_nil_iff.mp placed tokensOfSection found
  simpa [List.filter_eq_nil_iff] using none

theorem ofSpecifier?_eq_none_iff {format : Option String} :
    GuidFormat.ofSpecifier? format = none ↔ ∃ text ∈ format, text ∉ guidSpecifiers := by
  unfold GuidFormat.ofSpecifier?
  split <;> simp_all [guidSpecifiers]

def classifyCode : ClassifyError → DiagnosticCode
  | .invalidFormat => .invalidFormatForType
  | _ => .unsupportedPropertyType

theorem valueCode?_eq (type : TypeInfo) (format : Option String) :
    valueCode? format type =
      match classify type format with
      | .ok _ => none
      | .error failure => some (classifyCode failure) := by
  cases type with
  | guid name =>
      cases form : GuidFormat.ofSpecifier? format with
      | none =>
          simp only [valueCode?, classify, form, if_pos (ofSpecifier?_eq_none_iff.mp form)]
          rfl
      | some found =>
          have allowed : ¬ ∃ text ∈ format, text ∉ guidSpecifiers := by
            rw [← ofSpecifier?_eq_none_iff, form]
            simp
          simp only [valueCode?, classify, form, if_neg allowed]
  | string name => cases format <;> rfl
  | enumeration name shape => cases format <;> rfl
  | collection name element => rfl
  | value name capabilities =>
      obtain ⟨spanParsable, parsable, spanFormattable, formattable⟩ := capabilities
      -- Both sides depend on four flags and on whether there is a format.
      cases format <;> cases spanParsable <;> cases parsable <;> cases spanFormattable <;>
        cases formattable <;> rfl

theorem code_ofClassifyError {property : PropertyInfo} {type : TypeInfo} {format : Option String}
    {range : TextRange} {failure : ClassifyError} (failed : classify type format = .error failure) :
    Diagnostic.partErrorCode (PartError.ofClassifyError property type format range failure) =
      classifyCode failure := by
  cases refused_of_classify failed <;> rfl

theorem codes_partFailure? (target : TargetType) (token : Token) :
    (partFailure? target token).map Diagnostic.partErrorCode = partCode? target token := by
  obtain ⟨value, range⟩ := token
  cases value with
  | property name format =>
      cases declared : target.property? name with
      | none => simp [partFailure?, buildPart, partCode?, declared, Diagnostic.partErrorCode]
      | some property =>
          simp only [partFailure?, buildPart, partCode?, declared, scalarPart, valueCode?_eq]
          cases repeats : property.type.isCollection with
          | true => simp [classify_eq_collection_iff.mpr repeats, Diagnostic.partErrorCode]
          | false =>
              cases found : classify property.type format with
              | ok classification => simp
              | error failure =>
                  cases failure with
                  | collection => simp [classify_eq_collection_iff.mp found] at repeats
                  | _ => simp [code_ofClassifyError found]
  | repeatingProperty name separator format =>
      cases declared : target.property? name with
      | none => simp [partFailure?, buildPart, partCode?, declared, Diagnostic.partErrorCode]
      | some property =>
          simp only [partFailure?, buildPart, partCode?, declared, repeatingPart, valueCode?_eq]
          cases property.type.element? with
          | none => rfl
          | some element =>
              cases found : classify element format with
              | ok classification => simp [found]
              | error failure => simp [found, code_ofClassifyError found]
  | _ => rfl

theorem partCode?_isSome_iff {target : TargetType} {token : Token} :
    (partCode? target token).isSome ↔ ∃ failure, buildPart target token = .error failure := by
  rw [← codes_partFailure?, Option.isSome_map, partFailure?]
  cases buildPart target token with
  | ok part => simp
  | error failure => simp

theorem codes_checkParts (target : TargetType) (tokens : List Token) :
    (checkParts (buildParts target tokens)).map Diagnostic.code =
      tokens.filterMap (partCode? target) := by
  rw [checkParts_eq_map, errors_buildParts, List.map_map, List.map_filterMap]
  refine List.filterMap_congr ?_
  intro token _
  exact codes_partFailure? target token

theorem errors_eq_nil_of_partCodes {target : TargetType} {tokens : List Token}
    (none : tokens.filterMap (partCode? target) = []) : (buildParts target tokens).errors = [] := by
  rw [← codes_checkParts, List.map_eq_nil_iff, checkParts_eq_map, List.map_eq_nil_iff] at none
  exact none

/-! ## All conditions -/

theorem codes_validated (declaration : KeyDeclaration) :
    declaration.validated.found.map Diagnostic.code = declaration.conditionCodes := by
  rw [found_validated, KeyDeclaration.conditionCodes, List.map_append, codes_checkTarget]
  congr 1
  cases declaration.tokens with
  | error failure => rfl
  | ok tokens =>
      simp only [checkTokens_eq_append, List.map_append, codes_checkSeparator, codes_checkMembers,
        codes_checkPlacement, codes_checkParts]

theorem conditionCodes_of_compile {declaration : KeyDeclaration} {spec : KeySpec}
    (compiled : compile declaration = .ok spec) : declaration.conditionCodes = [] := by
  rw [← codes_validated, finish_ok_iff.mp (finish_of_compile_ok compiled).1, List.map_nil]

theorem exists_compile_iff {declaration : KeyDeclaration} :
    (∃ spec, compile declaration = .ok spec) ↔ declaration.conditionCodes = [] := by
  constructor
  · rintro ⟨spec, compiled⟩
    exact conditionCodes_of_compile compiled
  · intro none
    rw [← codes_validated, List.map_eq_nil_iff] at none
    exact exists_compile_of_finish (finish_ok_iff.mpr none)

theorem codes_of_compile {declaration : KeyDeclaration} {diagnostics : Diagnostics}
    (refused : compile declaration = .error diagnostics) :
    diagnostics.codes = declaration.conditionCodes := by
  have same := toList_of_finish_error (finish_of_compile_error refused)
  rw [Diagnostics.codes, same, codes_validated]

def unusableKey : KeyDeclaration :=
  ⟨((((((TargetType.ofName "Key").withShape .interfaceType).withPartial false).withProperty
    (PropertyInfo.ofType "A" .plainGuid).writeOnly).withProperty
    (.ofType "B" .plainString)).withProperty
    (.ofType "Tags" (.collection "List" .plainString))).withConstructor ⟨["other"]⟩,
    ⟨"{Missing}#{Tags...,}#{A:Q}#{B...,}#{Tags}", some '|', true⟩⟩

end CompositeKey
