import CompositeKey.Proofs.Diagnostic.Checks
import CompositeKey.Proofs.Diagnostic.References
import CompositeKey.Proofs.Target.Selection

/-!
# Properties that cannot be read or written

A constructor is chosen for the declared names of a template together; then each name
is looked at by itself, where it stands first.  Names that are not declared have no part
in either.
-/

set_option autoImplicit false

namespace CompositeKey

/-- A constructor can be chosen for the names of a template, and none of its parameters
sets the property. -/
def IsUnset (target : TargetType) (tokens : List Token) (name : String) : Prop :=
  ∃ choice ∈ (selectConstructor target.constructors (declaredNames target tokens)).toOption,
    ∀ parameter ∈ choice.parameters, ¬ sameIgnoringCase parameter name

instance (target : TargetType) (tokens : List Token) (name : String) :
    Decidable (IsUnset target tokens name) :=
  inferInstanceAs (Decidable (∃ choice ∈ Except.toOption _, _))

def accessReports (target : TargetType) (tokens : List Token) (name : String) :
    List Diagnostic :=
  match target.property? name, firstNaming? name tokens with
  | some property, some token =>
      (if property.getter = none then [.inaccessibleProperty name token.range .read] else []) ++
        if property.setter = none ∧ IsUnset target tokens name then
          [.inaccessibleProperty name token.range .write]
        else []
  | _, _ => []

theorem code_of_mem_checkAccess {choice : Option ConstructorChoice} {reference : Reference} :
    ∀ diagnostic ∈ checkAccess choice reference, diagnostic.code = .inaccessibleProperty := by
  intro diagnostic member
  obtain ⟨access, rfl⟩ := exists_access_of_mem_checkAccess member
  rfl

theorem checkAccess_eq_accessReports {target : TargetType} {tokens : List Token}
    {reference : Reference} (member : reference ∈ references target tokens) :
    checkAccess (selectConstructor target.constructors (declaredNames target tokens)).toOption
        reference = accessReports target tokens reference.name := by
  have declared := property?_of_mem_referencesFrom member
  obtain ⟨token, first, range⟩ := firstNaming?_of_mem_referencesFrom member
  obtain ⟨name, ⟨own, type, getter, setter⟩, place⟩ := reference
  simp only [accessReports, declared, first, range, checkAccess_eq_append, IsUnset,
    ← binds_eq_false_iff, PropertyInfo.isReadable, PropertyInfo.isWritable]
  apply congrArg₂
  · cases getter <;> rfl
  · cases (selectConstructor target.constructors (declaredNames target tokens)).toOption with
    | none => simp
    | some choice => cases setter <;> cases bound : choice.binds name <;> simp [bound]

theorem filter_checkMembers (target : TargetType) (tokens : List Token) :
    (checkMembers target tokens).filter (fun found => found.code = .inaccessibleProperty) =
      (declaredNames target tokens).flatMap (accessReports target tokens) := by
  have accesses (choice : Option ConstructorChoice) (found : List Reference) :
      ((found.flatMap (checkAccess choice)).filter fun diagnostic =>
        diagnostic.code = .inaccessibleProperty) = found.flatMap (checkAccess choice) := by
    apply filter_code_eq_self
    intro diagnostic member
    obtain ⟨reference, _, reported⟩ := List.mem_flatMap.mp member
    exact code_of_mem_checkAccess diagnostic reported
  have reported : (declaredNames target tokens).flatMap (accessReports target tokens) =
      (references target tokens).flatMap (checkAccess
        (selectConstructor target.constructors (declaredNames target tokens)).toOption) := by
    rw [← names_references, List.flatMap_map, names_references]
    apply List.flatMap_congr
    intro reference member
    exact (checkAccess_eq_accessReports member).symm
  rw [reported, checkMembers_eq_flatMap]
  simp only [names_references]
  cases chosen : selectConstructor target.constructors (declaredNames target tokens) with
  | ok choice => exact accesses (some choice) _
  | error failure =>
      have other : (Diagnostic.constructorError target failure).code ≠ .inaccessibleProperty := by
        cases failure <;> nofun
      rw [List.filter_cons_of_neg (by simpa using other)]
      exact accesses none _

def inaccessible (declaration : KeyDeclaration) (tokens : List Token) : List Diagnostic :=
  (checkTokens declaration tokens).filter fun found => found.code = .inaccessibleProperty

theorem inaccessible_eq_filter_checkMembers (declaration : KeyDeclaration)
    (tokens : List Token) :
    inaccessible declaration tokens = (checkMembers declaration.target tokens).filter fun found =>
      found.code = .inaccessibleProperty := by
  rw [inaccessible, checkTokens_eq_append, List.filter_append, List.filter_append,
    filter_checkSeparator_of_ne (by decide), filter_checkPlacement_of_ne (by decide),
    List.nil_append, List.append_nil]

theorem checkMembers_filter_namesDeclared (target : TargetType) (tokens : List Token) :
    checkMembers target (tokens.filter fun token => NamesDeclared target token) =
      checkMembers target tokens := by
  simp only [checkMembers_eq_flatMap, references, referencesFrom_filter]

example :
    let target := (((TargetType.ofName "Key").withProperty
      (PropertyInfo.ofType "A" .plainGuid).readOnly).withProperty
      (.ofType "B" .plainString)).withConstructor ⟨["a"]⟩
    (checkMembers target [⟨.property "A" none, .empty 0⟩, ⟨.property "B" none, .empty 3⟩]).map
        Diagnostic.code = [] ∧
      (checkMembers target [⟨.property "a" none, .empty 0⟩, ⟨.property "B" none, .empty 3⟩]).map
        Diagnostic.code = [.ambiguousConstructor] := by
  decide +kernel

end CompositeKey
