import CompositeKey.Diagnostic.Validator
import Mathlib.Data.List.Basic

/-!
# What each check of a validation reports

A check adds the same diagnostics whatever was collected before it.  They are told
for each check, with the sections in which repeating properties are placed.
-/

set_option autoImplicit false

namespace CompositeKey

/-- A step that keeps what was collected and adds behind it, whatever that is, what it
collects on its own. -/
def Appends (step : List Diagnostic → List Diagnostic) : Prop :=
  ∀ found, step found = found ++ step []

theorem appends_unchanged : Appends fun found => found :=
  fun found => (List.append_nil found).symm

theorem appends_collect (diagnostic : Diagnostic) : Appends (collect diagnostic) :=
  fun _ => rfl

theorem collectUnless_eq (holds : Bool) (diagnostic : Diagnostic) (found : List Diagnostic) :
    collectUnless holds diagnostic found = found ++ if holds then [] else [diagnostic] := by
  cases holds <;> simp [collectUnless, collect]

theorem appends_collectUnless (holds : Bool) (diagnostic : Diagnostic) :
    Appends (collectUnless holds diagnostic) := by
  intro found
  rw [collectUnless_eq, collectUnless_eq, List.nil_append]

theorem Appends.comp {first second : List Diagnostic → List Diagnostic}
    (later : Appends second) (earlier : Appends first) :
    Appends fun found => second (first found) := by
  intro found
  calc second (first found) = first found ++ second [] := later (first found)
    _ = found ++ first [] ++ second [] := by rw [earlier found]
    _ = found ++ (first [] ++ second []) := List.append_assoc ..
    _ = found ++ second (first []) := by rw [later (first [])]

section Loops

variable {α : Type} {step : List Diagnostic → α → List Diagnostic}

theorem foldl_eq_append_flatMap (appends : ∀ item, Appends fun found => step found item)
    (items : List α) (found : List Diagnostic) :
    items.foldl step found = found ++ items.flatMap (step []) := by
  induction items generalizing found with
  | nil => exact (List.append_nil found).symm
  | cons item rest ih =>
      have first : step found item = found ++ step [] item := appends item found
      rw [List.foldl_cons, ih, first, List.append_assoc, List.flatMap_cons]

theorem appends_foldl (appends : ∀ item, Appends fun found => step found item)
    (items : List α) : Appends fun found => items.foldl step found := by
  intro found
  have alone := foldl_eq_append_flatMap appends items []
  exact (foldl_eq_append_flatMap appends items found).trans (congrArg (found ++ ·) alone.symm)

end Loops

def checkTarget (target : TargetType) : List Diagnostic := collectTarget target []

theorem appends_collectTarget (target : TargetType) : Appends (collectTarget target) :=
  (appends_collectUnless _ _).comp (appends_collectUnless _ _)

theorem checkTarget_eq_append (target : TargetType) :
    checkTarget target =
      (if target.shape.isAugmentable then [] else [.unsupportedTargetShape target]) ++
        if target.isPartial then [] else [.targetNotPartial target] := by
  rw [checkTarget, collectTarget, collectUnless_eq, collectUnless_eq, List.nil_append]

def checkSeparator (config : KeyConfig) (tokens : List Token) : List Diagnostic :=
  collectSeparator config tokens []

theorem appends_collectSeparator (config : KeyConfig) (tokens : List Token) :
    Appends (collectSeparator config tokens) := by
  unfold collectSeparator
  cases config.primarySeparator with
  | none => exact appends_unchanged
  | some separator => exact appends_collectUnless _ _

theorem checkSeparator_eq_match (config : KeyConfig) (tokens : List Token) :
    checkSeparator config tokens =
      match config.primarySeparator with
      | none => []
      | some separator =>
          if hasPrimaryDelimiter tokens then [] else [.unusedPrimarySeparator separator] := by
  unfold checkSeparator collectSeparator
  cases config.primarySeparator with
  | none => rfl
  | some separator => exact collectUnless_eq _ _ []

def checkAccess (choice : Option ConstructorChoice) (reference : Reference) : List Diagnostic :=
  collectAccess choice [] reference

theorem appends_collectAccess (choice : Option ConstructorChoice) (reference : Reference) :
    Appends fun found => collectAccess choice found reference := by
  cases choice with
  | none => exact appends_collectUnless _ _
  | some choice => exact (appends_collectUnless _ _).comp (appends_collectUnless _ _)

theorem checkAccess_eq_append (choice : Option ConstructorChoice) (reference : Reference) :
    checkAccess choice reference =
      (if reference.property.isReadable then []
        else [.inaccessibleProperty reference.name reference.range .read]) ++
      match choice with
      | none => []
      | some choice =>
          if reference.property.isWritable || choice.binds reference.name then []
          else [.inaccessibleProperty reference.name reference.range .write] := by
  cases choice with
  | none =>
      simp only [checkAccess, collectAccess, collectUnless_eq, List.nil_append, List.append_nil]
  | some choice => simp only [checkAccess, collectAccess, collectUnless_eq, List.nil_append]

def checkMembers (target : TargetType) (tokens : List Token) : List Diagnostic :=
  collectMembers target tokens []

theorem appends_collectMembers (target : TargetType) (tokens : List Token) :
    Appends (collectMembers target tokens) := by
  intro found
  simp only [collectMembers]
  cases selectConstructor target.constructors ((references target tokens).map Reference.name) with
  | ok choice => exact appends_foldl (appends_collectAccess _) _ found
  | error failure =>
      exact (appends_foldl (appends_collectAccess _) _).comp (appends_collect _) found

theorem checkMembers_eq_flatMap (target : TargetType) (tokens : List Token) :
    checkMembers target tokens =
      let found := references target tokens
      match selectConstructor target.constructors (found.map Reference.name) with
      | .ok choice => found.flatMap (checkAccess (some choice))
      | .error failure => .constructorError target failure :: found.flatMap (checkAccess none) := by
  simp only [checkMembers, collectMembers]
  cases selectConstructor target.constructors ((references target tokens).map Reference.name) with
  | ok choice => exact foldl_eq_append_flatMap (appends_collectAccess _) _ _
  | error failure => exact foldl_eq_append_flatMap (appends_collectAccess _) _ _

def checkSection (place : Diagnostic.Section) (tokens : List Token) : List Diagnostic :=
  collectSection place [] tokens

theorem appends_collectMisplaced (place : Diagnostic.Section) (token : Token) :
    Appends fun found => collectMisplaced place found token := by
  unfold collectMisplaced
  cases token.value with
  | repeatingProperty name separator format => exact appends_collect _
  | _ => exact appends_unchanged

theorem appends_collectSection (place : Diagnostic.Section) (tokens : List Token) :
    Appends fun found => collectSection place found tokens :=
  appends_foldl (appends_collectMisplaced place) _

theorem checkSection_eq_flatMap (place : Diagnostic.Section) (tokens : List Token) :
    checkSection place tokens = tokens.dropLast.flatMap fun token =>
      match token.value with
      | .repeatingProperty name _ _ => [.misplacedRepeatingPart name token.range place.label]
      | _ => [] :=
  foldl_eq_append_flatMap (appends_collectMisplaced place) _ _

def checkPlacement (tokens : List Token) : List Diagnostic := collectPlacement tokens []

theorem appends_collectPlacement (tokens : List Token) : Appends (collectPlacement tokens) := by
  intro found
  simp only [collectPlacement]
  cases (sections tokens).2.isEmpty with
  | true => exact appends_collectSection _ _ found
  | false =>
      exact (appends_foldl (appends_collectSection _) _).comp (appends_collectSection _ _) found

theorem checkPlacement_eq_append (tokens : List Token) :
    checkPlacement tokens =
      let (first, others) := sections tokens
      if others.isEmpty then checkSection .key first
      else checkSection .partitionKey first ++ others.flatMap (checkSection .sortKey) := by
  simp only [checkPlacement, collectPlacement,
    foldl_eq_append_flatMap (appends_collectSection .sortKey)]
  rfl

def checkTokens (declaration : KeyDeclaration) (tokens : List Token) : List Diagnostic :=
  collectTokens declaration tokens []

theorem appends_collectTokens (declaration : KeyDeclaration) (tokens : List Token) :
    Appends (collectTokens declaration tokens) :=
  (appends_collectPlacement tokens).comp
    ((appends_collectMembers _ tokens).comp (appends_collectSeparator _ tokens))

theorem checkTokens_eq_append (declaration : KeyDeclaration) (tokens : List Token) :
    checkTokens declaration tokens =
      checkSeparator declaration.config tokens ++ checkMembers declaration.target tokens ++
        checkPlacement tokens := by
  rw [checkTokens, collectTokens, appends_collectPlacement, appends_collectMembers]
  rfl

def checkParts (built : KeyParts) : List Diagnostic := collectParts built []

theorem appends_collectParts (built : KeyParts) : Appends (collectParts built) :=
  appends_foldl (fun failure => appends_collect (.partError failure)) _

theorem checkParts_eq_map (built : KeyParts) :
    checkParts built = built.errors.map .partError := by
  rw [checkParts, collectParts,
    foldl_eq_append_flatMap fun failure => appends_collect (.partError failure), List.nil_append]
  exact List.map_eq_flatMap.symm

def Check.diagnostics (declaration : KeyDeclaration) (check : Check) : List Diagnostic :=
  check.collect declaration []

theorem Check.appends_collect (declaration : KeyDeclaration) (check : Check) :
    Appends (check.collect declaration) := by
  cases check with
  | target => exact appends_collectTarget _
  | tokens read => exact appends_collectTokens _ _
  | parts built => exact appends_collectParts _
  | tokenizationFailed failure => exact CompositeKey.appends_collect _

/-! ## What is reported -/

section Reported

variable {target : TargetType} {tokens : List Token} {diagnostic : Diagnostic}

theorem exists_access_of_mem_checkAccess {choice : Option ConstructorChoice}
    {reference : Reference} (member : diagnostic ∈ checkAccess choice reference) :
    ∃ access, diagnostic = .inaccessibleProperty reference.name reference.range access := by
  rw [checkAccess_eq_append] at member
  rcases List.mem_append.mp member with read | write
  · split at read
    · contradiction
    · exact ⟨.read, List.mem_singleton.mp read⟩
  · split at write
    · contradiction
    · split at write
      · contradiction
      · exact ⟨.write, List.mem_singleton.mp write⟩

theorem cases_of_mem_checkMembers (member : diagnostic ∈ checkMembers target tokens) :
    (∃ failure, diagnostic = .constructorError target failure) ∨
      ∃ reference ∈ references target tokens, ∃ access,
        diagnostic = .inaccessibleProperty reference.name reference.range access := by
  simp only [checkMembers_eq_flatMap] at member
  split at member
  · obtain ⟨reference, referenced, found⟩ := List.mem_flatMap.mp member
    exact .inr ⟨reference, referenced, exists_access_of_mem_checkAccess found⟩
  · rename_i failure _
    rcases List.mem_cons.mp member with first | later
    · exact .inl ⟨failure, first⟩
    · obtain ⟨reference, referenced, found⟩ := List.mem_flatMap.mp later
      exact .inr ⟨reference, referenced, exists_access_of_mem_checkAccess found⟩

theorem exists_token_of_mem_checkSection {place : Diagnostic.Section}
    (member : diagnostic ∈ checkSection place tokens) :
    ∃ token ∈ tokens, ∃ name separator format,
      token.value = .repeatingProperty name separator format ∧
        diagnostic = .misplacedRepeatingPart name token.range place.label := by
  rw [checkSection_eq_flatMap] at member
  obtain ⟨token, early, found⟩ := List.mem_flatMap.mp member
  split at found
  · rename_i name separator format value
    exact ⟨token, List.dropLast_subset tokens early, name, separator, format, value,
      List.mem_singleton.mp found⟩
  · contradiction

theorem subset_of_mem_sections {run : List Token}
    (member : run ∈ (sections tokens).1 :: (sections tokens).2) : run ⊆ tokens := by
  induction tokens generalizing run with
  | nil =>
      obtain rfl : run = [] := by simpa [sections] using member
      exact List.Subset.refl []
  | cons token rest ih =>
      unfold sections at member
      split at member
      rename_i first others found
      rw [found] at ih
      split at member
      · rcases List.mem_cons.mp member with rfl | later
        · exact List.nil_subset _
        · exact List.subset_cons_of_subset token (ih later)
      · rcases List.mem_cons.mp member with rfl | later
        · exact List.cons_subset_cons token (ih List.mem_cons_self)
        · exact List.subset_cons_of_subset token (ih (List.mem_cons_of_mem first later))

theorem exists_token_of_mem_checkPlacement (member : diagnostic ∈ checkPlacement tokens) :
    ∃ token ∈ tokens, ∃ name separator format label,
      token.value = .repeatingProperty name separator format ∧
        diagnostic = .misplacedRepeatingPart name token.range label := by
  have reported : ∃ run ∈ (sections tokens).1 :: (sections tokens).2, ∃ place,
      diagnostic ∈ checkSection place run := by
    simp only [checkPlacement_eq_append] at member
    split at member
    · exact ⟨_, List.mem_cons_self, _, member⟩
    · rcases List.mem_append.mp member with first | later
      · exact ⟨_, List.mem_cons_self, _, first⟩
      · obtain ⟨run, other, found⟩ := List.mem_flatMap.mp later
        exact ⟨run, List.mem_cons_of_mem _ other, _, found⟩
  obtain ⟨run, inside, place, found⟩ := reported
  obtain ⟨token, early, name, separator, format, value, same⟩ :=
    exists_token_of_mem_checkSection found
  exact ⟨token, subset_of_mem_sections inside early, name, separator, format, place.label, value,
    same⟩

theorem exists_separator_of_mem_checkSeparator {config : KeyConfig}
    (member : diagnostic ∈ checkSeparator config tokens) :
    ∃ separator, diagnostic = .unusedPrimarySeparator separator := by
  rw [checkSeparator_eq_match] at member
  split at member
  · contradiction
  · rename_i separator _
    split at member
    · contradiction
    · exact ⟨separator, List.mem_singleton.mp member⟩

theorem cases_of_mem_checkTarget (member : diagnostic ∈ checkTarget target) :
    diagnostic = .unsupportedTargetShape target ∨ diagnostic = .targetNotPartial target := by
  rw [checkTarget_eq_append] at member
  rcases List.mem_append.mp member with shape | modifier
  · split at shape
    · contradiction
    · exact .inl (List.mem_singleton.mp shape)
  · split at modifier
    · contradiction
    · exact .inr (List.mem_singleton.mp modifier)

theorem code_of_mem_checkMembers (member : diagnostic ∈ checkMembers target tokens) :
    diagnostic.code = .ambiguousConstructor ∨ diagnostic.code = .inaccessibleProperty := by
  rcases cases_of_mem_checkMembers member with ⟨failure, rfl⟩ | ⟨reference, _, access, rfl⟩
  · cases failure <;> exact .inl rfl
  · exact .inr rfl

theorem code_of_mem_checkPlacement (member : diagnostic ∈ checkPlacement tokens) :
    diagnostic.code = .misplacedRepeatingPart := by
  obtain ⟨token, _, name, separator, format, label, _, rfl⟩ :=
    exists_token_of_mem_checkPlacement member
  rfl

theorem code_of_mem_checkSeparator {config : KeyConfig}
    (member : diagnostic ∈ checkSeparator config tokens) :
    diagnostic.code = .unusedPrimarySeparator := by
  obtain ⟨separator, rfl⟩ := exists_separator_of_mem_checkSeparator member
  rfl

end Reported

section Codes

variable {code : DiagnosticCode} {found : List Diagnostic}

theorem filter_code_eq_self (all : ∀ diagnostic ∈ found, diagnostic.code = code) :
    (found.filter fun diagnostic => diagnostic.code = code) = found := by
  apply List.filter_eq_self.mpr
  intro diagnostic member
  exact decide_eq_true (all diagnostic member)

theorem filter_code_eq_nil (none : ∀ diagnostic ∈ found, diagnostic.code ≠ code) :
    (found.filter fun diagnostic => diagnostic.code = code) = [] := by
  apply List.filter_eq_nil_iff.mpr
  intro diagnostic member same
  exact none diagnostic member (of_decide_eq_true same)

theorem filter_checkSeparator_of_ne (other : code ≠ .unusedPrimarySeparator) (config : KeyConfig)
    (tokens : List Token) :
    ((checkSeparator config tokens).filter fun diagnostic => diagnostic.code = code) = [] := by
  apply filter_code_eq_nil
  intro diagnostic member
  rw [code_of_mem_checkSeparator member]
  exact other.symm

theorem filter_checkMembers_of_ne (other : code ≠ .ambiguousConstructor)
    (another : code ≠ .inaccessibleProperty) (target : TargetType) (tokens : List Token) :
    ((checkMembers target tokens).filter fun diagnostic => diagnostic.code = code) = [] := by
  apply filter_code_eq_nil
  intro diagnostic member
  rcases code_of_mem_checkMembers member with same | same
  · rw [same]
    exact other.symm
  · rw [same]
    exact another.symm

theorem filter_checkPlacement_of_ne (other : code ≠ .misplacedRepeatingPart)
    (tokens : List Token) :
    ((checkPlacement tokens).filter fun diagnostic => diagnostic.code = code) = [] := by
  apply filter_code_eq_nil
  intro diagnostic member
  rw [code_of_mem_checkPlacement member]
  exact other.symm

end Codes

theorem sections_eq (tokens : List Token) :
    (sections tokens).1 :: (sections tokens).2 =
      tokens.splitOnP fun token => token.value.isPrimaryDelimiter := by
  induction tokens with
  | nil => rfl
  | cons token rest ih =>
      rw [List.splitOnP_cons_eq_if_modifyHead, ← ih]
      cases primary : token.value.isPrimaryDelimiter <;> simp [sections, primary]

end CompositeKey
