import CompositeKey.Proofs.Compile.Agreement
import CompositeKey.Proofs.Compile.Overflow

/-!
# What a declaration is compiled from

A compilation meets the target type in three places: the checks of the type
itself, the checks of its members, and the parts that are built.  Each of them
looks up the properties that the template names and never goes through the table,
so two declarations that answer these look-ups alike compile alike.
-/

set_option autoImplicit false

namespace CompositeKey

theorem finish_congr {first second : Validator} (found : first.found = second.found) :
    first.finish = second.finish := by
  rw [Validator.finish, Validator.finish, found]

theorem compile_congr {first second : KeyDeclaration} (config : first.config = second.config)
    (target : checkTarget first.target = checkTarget second.target)
    (members : ∀ tokens, first.tokens = .ok tokens →
      checkMembers first.target tokens = checkMembers second.target tokens)
    (built : ∀ tokens, first.tokens = .ok tokens →
      buildParts first.target tokens = buildParts second.target tokens) :
    compile first = compile second := by
  have read : second.tokens = first.tokens := by
    rw [KeyDeclaration.tokens, KeyDeclaration.tokens, config]
  have found : first.validated.found = second.validated.found := by
    rw [found_validated, found_validated, target, read]
    cases run : first.tokens with
    | error failure => rfl
    | ok tokens =>
        simp only [checkTokens_eq_append, config, members tokens run, built tokens run]
  have assembled : assembleTokens first first.tokens = assembleTokens second second.tokens := by
    rw [read]
    cases run : first.tokens with
    | error failure => rfl
    | ok tokens => simp only [assembleTokens, config, built tokens run]
  simp only [compile_eq_match, finish_congr found, assembled]

/-! ## Looking up what a template names -/

def propertyNames (tokens : List Token) : List String :=
  tokens.filterMap fun token => token.value.propertyName?

def AgreeOn (names : List String) (first second : TargetType) : Prop :=
  ∀ name ∈ names, first.property? name = second.property? name

section LookUps

variable {first second : TargetType} {token : Token} {rest : List Token}

theorem AgreeOn.head (agree : AgreeOn (propertyNames (token :: rest)) first second)
    {name : String} (named : token.value.propertyName? = some name) :
    first.property? name = second.property? name := by
  apply agree
  simp [propertyNames, named]

theorem AgreeOn.tail (agree : AgreeOn (propertyNames (token :: rest)) first second) :
    AgreeOn (propertyNames rest) first second := by
  intro name member
  apply agree
  obtain ⟨later, found, named⟩ := List.mem_filterMap.mp member
  exact List.mem_filterMap.mpr ⟨later, List.mem_cons_of_mem token found, named⟩

theorem buildPart_congr (agree : ∀ name, token.value.propertyName? = some name →
      first.property? name = second.property? name) :
    buildPart first token = buildPart second token := by
  obtain ⟨value, range⟩ := token
  cases value with
  | property name format => simp only [buildPart, agree name rfl]
  | repeatingProperty name separator format => simp only [buildPart, agree name rfl]
  | _ => rfl

theorem buildParts_congr {tokens : List Token}
    (agree : AgreeOn (propertyNames tokens) first second) :
    buildParts first tokens = buildParts second tokens := by
  induction tokens with
  | nil => rfl
  | cons token rest ih =>
      have part : buildPart first token = buildPart second token := by
        apply buildPart_congr
        intro name named
        exact agree.head named
      simp only [buildParts, part, ih agree.tail]

theorem referencesFrom_congr {tokens : List Token} (seen : List String)
    (agree : AgreeOn (propertyNames tokens) first second) :
    referencesFrom first seen tokens = referencesFrom second seen tokens := by
  induction tokens generalizing seen with
  | nil => rfl
  | cons token rest ih =>
      have later := agree.tail
      cases named : token.value.propertyName? with
      | none => simp only [referencesFrom, named, ih seen later]
      | some name =>
          simp only [referencesFrom, named, agree.head named, ih seen later,
            ih (name :: seen) later]

end LookUps

namespace KeyDeclaration

/-- The names in the property tokens of a template; none when it cannot be read. -/
def templateNames (declaration : KeyDeclaration) : List String :=
  match declaration.tokens with
  | .ok tokens => propertyNames tokens
  | .error _ => []

/-- Two declarations that differ in nothing but properties that are not named. -/
structure LooksLike (first second : KeyDeclaration) : Prop where
  name : first.target.name = second.target.name
  shape : first.target.shape = second.target.shape
  isPartial : first.target.isPartial = second.target.isPartial
  constructors : first.target.constructors = second.target.constructors
  config : first.config = second.config
  properties : AgreeOn first.templateNames first.target second.target

def withInvariantFormatting (declaration : KeyDeclaration) (invariant : Bool) : KeyDeclaration :=
  { declaration with config := declaration.config.withInvariantFormatting invariant }

namespace LooksLike

variable {first second : KeyDeclaration}

theorem agreeOn (alike : first.LooksLike second) {tokens : List Token}
    (run : first.tokens = .ok tokens) :
    AgreeOn (propertyNames tokens) first.target second.target := by
  have named := alike.properties
  rw [templateNames, run] at named
  exact named

theorem checkTarget_eq (alike : first.LooksLike second) :
    checkTarget first.target = checkTarget second.target := by
  simp only [checkTarget_eq_append, Diagnostic.unsupportedTargetShape, Diagnostic.targetNotPartial,
    alike.name, alike.shape, alike.isPartial]

theorem constructorError_eq (alike : first.LooksLike second) (failure : ConstructorError) :
    Diagnostic.constructorError first.target failure =
      Diagnostic.constructorError second.target failure := by
  cases failure <;>
    simp only [Diagnostic.constructorError, Diagnostic.noMatchingConstructor,
      Diagnostic.ambiguousConstructor, alike.name]

theorem checkMembers_eq (alike : first.LooksLike second) {tokens : List Token}
    (run : first.tokens = .ok tokens) :
    checkMembers first.target tokens = checkMembers second.target tokens := by
  have referenced : references first.target tokens = references second.target tokens :=
    referencesFrom_congr [] (alike.agreeOn run)
  simp only [checkMembers_eq_flatMap, referenced, alike.constructors, alike.constructorError_eq]

theorem compile_eq (alike : first.LooksLike second) : compile first = compile second := by
  apply compile_congr alike.config alike.checkTarget_eq
  · intro tokens run
    exact alike.checkMembers_eq run
  · intro tokens run
    exact buildParts_congr (alike.agreeOn run)

end LooksLike

end KeyDeclaration

def KeySpec.withInvariantFormatting (invariant : Bool) : KeySpec → KeySpec
  | .primary spec => .primary { spec with invariantFormatting := invariant }
  | .composite spec => .composite { spec with invariantFormatting := invariant }

section Formatting

variable (declaration : KeyDeclaration) (invariant : Bool)

theorem assemble_withInvariantFormatting (parts : List KeyPart) (config : KeyConfig) :
    assemble parts (config.withInvariantFormatting invariant) =
      (assemble parts config).map (KeySpec.withInvariantFormatting invariant) := by
  simp only [assemble, KeyConfig.withInvariantFormatting]
  cases splitAtDelimiter parts with
  | none => cases config.primarySeparator <;> rfl
  | some found =>
      obtain ⟨before, delimiter, after⟩ := found
      cases several : after.any KeyPart.isPrimaryDelimiter <;>
        simp [several, Except.map, KeySpec.withInvariantFormatting]

theorem validated_withInvariantFormatting :
    (declaration.withInvariantFormatting invariant).validated.finish =
      declaration.validated.finish := by
  apply finish_congr
  rw [found_validated, found_validated]
  rfl

theorem assembleTokens_withInvariantFormatting (read : Except TokenizeError (List Token)) :
    assembleTokens (declaration.withInvariantFormatting invariant) read =
      (assembleTokens declaration read).map (KeySpec.withInvariantFormatting invariant) := by
  cases read with
  | error failure => rfl
  | ok tokens =>
      simp only [assembleTokens, KeyDeclaration.withInvariantFormatting,
        assemble_withInvariantFormatting]
      cases assemble (buildParts declaration.target tokens).parts declaration.config <;> rfl

theorem compile_withInvariantFormatting :
    compile (declaration.withInvariantFormatting invariant) =
      (compile declaration).map (KeySpec.withInvariantFormatting invariant) := by
  simp only [compile_eq_match, validated_withInvariantFormatting]
  cases declaration.validated.finish with
  | error diagnostics => rfl
  | ok none => exact assembleTokens_withInvariantFormatting declaration invariant _

theorem compile?_withInvariantFormatting :
    compile? (declaration.withInvariantFormatting invariant) =
      (compile? declaration).map fun compiled =>
        compiled.map (KeySpec.withInvariantFormatting invariant) := by
  have template : (declaration.withInvariantFormatting invariant).TemplateOverflows ↔
      declaration.TemplateOverflows := Iff.rfl
  ext answer
  simp only [Option.map_eq_some_iff, compile?_eq_some_iff, template,
    compile_withInvariantFormatting, and_assoc, exists_and_left, exists_eq_left']

end Formatting

/-- Properties that a template does not name have no influence on its compilation,
nor on whether it has one, and the formatting flag goes into a specification and
nowhere else. -/
theorem compile_looks_at_named_properties {first second : KeyDeclaration}
    (alike : first.LooksLike second) :
    compile first = compile second ∧
    (∀ invariant, compile (first.withInvariantFormatting invariant) =
      (compile first).map (KeySpec.withInvariantFormatting invariant)) ∧
    compile? first = compile? second ∧
    ∀ invariant, compile? (first.withInvariantFormatting invariant) =
      (compile? first).map fun compiled =>
        compiled.map (KeySpec.withInvariantFormatting invariant) := by
  refine ⟨alike.compile_eq, ?_, compile?_congr alike.config alike.compile_eq, ?_⟩
  · intro invariant
    exact compile_withInvariantFormatting first invariant
  · intro invariant
    exact compile?_withInvariantFormatting first invariant

def crowdedKey (template : String) (separator : Option Char) : KeyDeclaration :=
  ⟨(((TargetType.ofName "Key").withProperty (.ofType "B" .plainString)).withProperty
    (.ofType "Notes" (.value "Notes" .none))).withProperty (.ofType "A" .plainGuid),
    ⟨template, separator, true⟩⟩

theorem crowded_key_compiles_alike :
    ∃ spec, compile (twoPropertyKey "{A}|{B}" (some '|')) = .ok spec ∧
      compile (crowdedKey "{A}|{B}" (some '|')) = .ok spec ∧
      compile ((twoPropertyKey "{A}|{B}" (some '|')).withInvariantFormatting false) =
        .ok (spec.withInvariantFormatting false) := by
  have alike : (twoPropertyKey "{A}|{B}" (some '|')).LooksLike
      (crowdedKey "{A}|{B}" (some '|')) := by
    refine ⟨rfl, rfl, rfl, rfl, rfl, ?_⟩
    unfold AgreeOn
    decide +kernel
  obtain ⟨same, formatted, _⟩ := compile_looks_at_named_properties alike
  have clean : (twoPropertyKey "{A}|{B}" (some '|')).validated.finish = .ok () := by
    decide +kernel
  obtain ⟨tokens, spec, run, assembled⟩ := exists_assemble_of_finish clean
  have compiled := compile_of_assemble clean run assembled
  refine ⟨spec, compiled, ?_, ?_⟩
  · rw [← same]
    exact compiled
  · rw [formatted, compiled]
    rfl

end CompositeKey
