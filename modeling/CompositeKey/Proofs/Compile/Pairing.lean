import CompositeKey.Proofs.Compile.Conditions
import CompositeKey.Proofs.Target.Respelling
import Mathlib.Data.List.Perm.Subperm

/-!
# Parameters and the properties they set

Names of properties differ when their case does, and parameters are matched with them up
to ASCII case.  So one parameter may match several properties, and several parameters one
property.  What an accepted key promises is a match for each; how many there are of a name
up to case decides whether they pair up.
-/

set_option autoImplicit false

namespace CompositeKey

def caseCount (name : String) (names : List String) : Nat :=
  names.countP fun other => sameIgnoringCase other name

section Names

variable {name other first second : String} {parameters names : List String}

theorem sameIgnoringCase_refl (name : String) : sameIgnoringCase name name = true :=
  sameIgnoringCase_iff.mpr rfl

theorem sameIgnoringCase_comm (first second : String) :
    sameIgnoringCase first second = sameIgnoringCase second first := by
  rw [Bool.eq_iff_iff, sameIgnoringCase_iff, sameIgnoringCase_iff]
  exact eq_comm

theorem caseCount_cons (name other : String) (names : List String) :
    caseCount name (other :: names) =
      caseCount name names + if sameIgnoringCase other name then 1 else 0 :=
  List.countP_cons

theorem caseCount_pos_iff :
    0 < caseCount name names ↔ ∃ other ∈ names, sameIgnoringCase other name = true :=
  List.countP_pos_iff

theorem Recased.caseCount_eq (recased : Recased parameters names) (name : String) :
    caseCount name parameters = caseCount name names := by
  induction recased with
  | nil => rfl
  | cons same _ ih => rw [caseCount_cons, caseCount_cons, ih, sameIgnoringCase_congr same]

theorem two_le_caseCount_iff :
    2 ≤ caseCount name names ↔
      ∃ first second, [first, second].Sublist names ∧
        sameIgnoringCase first name = true ∧ sameIgnoringCase second name = true := by
  constructor
  · intro several
    rw [caseCount, List.countP_eq_length_filter] at several
    match counted : names.filter fun other => sameIgnoringCase other name with
    | [] => simp [counted] at several
    | [only] => simp [counted] at several
    | first :: second :: rest =>
        have same : ∀ found ∈ first :: second :: rest, sameIgnoringCase found name = true := by
          intro found member
          rw [← counted] at member
          exact (List.mem_filter.mp member).2
        refine ⟨first, second, ?_, same first (by simp), same second (by simp)⟩
        have front : [first, second].Sublist (first :: second :: rest) := by simp
        rw [← counted] at front
        exact front.trans List.filter_sublist
  · rintro ⟨first, second, pair, firstSame, secondSame⟩
    have counted : caseCount name [first, second] = 2 := by
      simp [caseCount, firstSame, secondSame]
    rw [← counted]
    exact pair.countP_le

/-- Parameters that match the names one by one can be chosen, each at most as often as it
is declared. -/
def IsAssignable (parameters names : List String) : Prop :=
  ∃ chosen : List String, chosen.Subperm parameters ∧ Recased chosen names

theorem caseCount_erase {parameter : String} (member : parameter ∈ parameters) (name : String) :
    caseCount name parameters =
      caseCount name (parameters.erase parameter) +
        if sameIgnoringCase parameter name then 1 else 0 := by
  rw [← caseCount_cons]
  exact (List.perm_cons_erase member).countP_eq _

theorem isAssignable_of_caseCount_le
    (enough : ∀ name ∈ names, caseCount name names ≤ caseCount name parameters) :
    IsAssignable parameters names := by
  induction names generalizing parameters with
  | nil => exact ⟨[], List.nil_subperm, .nil⟩
  | cons name rest ih =>
      have positive : 0 < caseCount name parameters := by
        have least := enough name List.mem_cons_self
        rw [caseCount_cons, if_pos (sameIgnoringCase_refl name)] at least
        omega
      obtain ⟨parameter, member, same⟩ := caseCount_pos_iff.mp positive
      -- One parameter and one name of the same case go, so the rest still suffice.
      have others : ∀ other ∈ rest,
          caseCount other rest ≤ caseCount other (parameters.erase parameter) := by
        intro other later
        have least := enough other (List.mem_cons_of_mem name later)
        rw [caseCount_cons, caseCount_erase member, sameIgnoringCase_congr same] at least
        omega
      obtain ⟨chosen, taken, recased⟩ := ih others
      refine ⟨parameter :: chosen, ?_, .cons same recased⟩
      exact ((List.subperm_cons parameter).mpr taken).trans
        (List.perm_cons_erase member).symm.subperm

theorem isAssignable_iff :
    IsAssignable parameters names ↔
      ∀ name ∈ names, caseCount name names ≤ caseCount name parameters := by
  constructor
  · rintro ⟨chosen, taken, recased⟩ name _
    rw [← recased.caseCount_eq]
    exact taken.countP_le _
  · exact isAssignable_of_caseCount_le

def matchedNames (names : List String) (parameter : String) : List String :=
  names.filter fun name => sameIgnoringCase parameter name

/-- Two parameters match one and the same name and no other one. -/
def ShareSoleName (names : List String) (first second : String) : Prop :=
  ∃ name, matchedNames names first = [name] ∧ matchedNames names second = [name]

theorem matchedNames_eq_singleton_iff {parameter : String} :
    matchedNames names parameter = [name] ↔
      name ∈ names ∧ sameIgnoringCase parameter name = true ∧ caseCount name names = 1 := by
  have counted (same : sameIgnoringCase parameter name = true) :
      caseCount name names = (matchedNames names parameter).length := by
    rw [caseCount, List.countP_eq_length_filter, matchedNames]
    congr 2
    funext other
    rw [sameIgnoringCase_comm other, sameIgnoringCase_congr same]
  constructor
  · intro matched
    have member : name ∈ matchedNames names parameter := by simp [matched]
    obtain ⟨listed, same⟩ := List.mem_filter.mp member
    exact ⟨listed, same, by rw [counted same, matched, List.length_singleton]⟩
  · rintro ⟨listed, same, single⟩
    rw [counted same] at single
    obtain ⟨only, matched⟩ := List.length_eq_one_iff.mp single
    have member : name ∈ matchedNames names parameter := List.mem_filter.mpr ⟨listed, same⟩
    rw [matched, List.mem_singleton] at member
    rw [matched, member]

theorem shareSoleName_iff :
    ShareSoleName names first second ↔
      ∃ name ∈ names, caseCount name names = 1 ∧
        sameIgnoringCase first name = true ∧ sameIgnoringCase second name = true := by
  simp only [ShareSoleName, matchedNames_eq_singleton_iff]
  constructor
  · rintro ⟨name, ⟨listed, firstSame, single⟩, -, secondSame, -⟩
    exact ⟨name, listed, single, firstSame, secondSame⟩
  · rintro ⟨name, listed, single, firstSame, secondSame⟩
    exact ⟨name, ⟨listed, firstSame, single⟩, listed, secondSame, single⟩

theorem pairwise_not_shareSoleName_iff :
    (parameters.Pairwise fun first second => ¬ ShareSoleName names first second) ↔
      ∀ name ∈ names, caseCount name names = 1 → caseCount name parameters ≤ 1 := by
  rw [List.pairwise_iff_forall_sublist]
  constructor
  · intro apart name listed single
    apply Nat.le_of_not_lt
    intro several
    obtain ⟨first, second, pair, firstSame, secondSame⟩ := two_le_caseCount_iff.mp several
    exact apart pair (shareSoleName_iff.mpr ⟨name, listed, single, firstSame, secondSame⟩)
  · intro few first second pair shared
    obtain ⟨name, listed, single, firstSame, secondSame⟩ := shareSoleName_iff.mp shared
    have several := two_le_caseCount_iff.mpr ⟨first, second, pair, firstSame, secondSame⟩
    have least := few name listed single
    omega

def CaseDistinct (names : List String) : Prop :=
  names.Pairwise fun first second => ¬ sameIgnoringCase first second

theorem caseCount_le_one_of_caseDistinct (distinct : CaseDistinct names) (name : String) :
    caseCount name names ≤ 1 := by
  apply Nat.le_of_not_lt
  intro several
  obtain ⟨first, second, pair, firstSame, secondSame⟩ := two_le_caseCount_iff.mp several
  refine List.pairwise_iff_forall_sublist.mp distinct pair ?_
  rw [sameIgnoringCase_congr firstSame, sameIgnoringCase_comm, secondSame]

end Names

/-! ## Accepted keys -/

def IsReadOnly (target : TargetType) (name : String) : Prop :=
  ∃ property ∈ target.property? name, property.setter = none

instance (target : TargetType) : DecidablePred (IsReadOnly target) := fun name =>
  inferInstanceAs (Decidable (∃ property ∈ target.property? name, property.setter = none))

def readOnlyNames (target : TargetType) (tokens : List Token) : List String :=
  (declaredNames target tokens).filter fun name => IsReadOnly target name

section Accepted

variable {declaration : KeyDeclaration} {spec : KeySpec} {tokens : List Token}
  {choice : ConstructorChoice}

theorem memberCodes_eq_nil_of_compile (compiled : compile declaration = .ok spec)
    (run : declaration.tokens = .ok tokens) : memberCodes declaration.target tokens = [] := by
  have none := conditionCodes_of_compile compiled
  simp only [KeyDeclaration.conditionCodes, run, List.append_eq_nil_iff] at none
  exact none.2.1.1.2

theorem exists_parameter_of_compile (compiled : compile declaration = .ok spec)
    (run : declaration.tokens = .ok tokens)
    (chosen : selectConstructor declaration.target.constructors
      (declaredNames declaration.target tokens) = .ok choice) :
    ∀ name ∈ readOnlyNames declaration.target tokens,
      ∃ parameter ∈ choice.parameters, sameIgnoringCase parameter name = true := by
  intro name member
  obtain ⟨listed, readOnly⟩ := List.mem_filter.mp member
  obtain ⟨property, declared, unset⟩ := of_decide_eq_true readOnly
  have none := memberCodes_eq_nil_of_compile compiled run
  simp only [memberCodes, chosen, List.append_eq_nil_iff, List.flatMap_eq_nil_iff] at none
  have silent := none.2 name listed property (Option.mem_toList.mpr declared)
  simp only [accessCodes, codeIf, List.append_eq_nil_iff, ite_eq_right_iff, List.cons_ne_nil,
    imp_false] at silent
  apply Classical.byContradiction
  intro unmatched
  refine silent.2 ⟨choice, rfl, unset, ?_⟩
  intro parameter listed same
  exact unmatched ⟨parameter, listed, same⟩

/-- In an accepted key each parameter matches a property of the template, and each property
without a setter a parameter.  Two parameters have only one and the same property exactly
when there are more parameters than that one property of its case.  A parameter for each
property without a setter can be chosen exactly when of no case there are fewer parameters.
Names that differ in more than case meet both. -/
theorem accepted_key_pairs_up_by_case {constructor : Constructor}
    (compiled : compile declaration = .ok spec) (run : declaration.tokens = .ok tokens)
    (chosen : selectConstructor declaration.target.constructors
      (declaredNames declaration.target tokens) = .ok (.declared constructor)) :
    let names := declaredNames declaration.target tokens
    let readOnly := readOnlyNames declaration.target tokens
    let parameters := constructor.parameters
    (∀ parameter ∈ parameters, ∃ name ∈ names, sameIgnoringCase parameter name = true) ∧
    (∀ name ∈ readOnly, ∃ parameter ∈ parameters, sameIgnoringCase parameter name = true) ∧
    ((parameters.Pairwise fun first second => ¬ ShareSoleName names first second) ↔
      ∀ name ∈ names, caseCount name names = 1 → caseCount name parameters ≤ 1) ∧
    (IsAssignable parameters readOnly ↔
      ∀ name ∈ readOnly, caseCount name readOnly ≤ caseCount name parameters) ∧
    (CaseDistinct parameters →
      parameters.Pairwise fun first second => ¬ ShareSoleName names first second) ∧
    (CaseDistinct readOnly → IsAssignable parameters readOnly) := by
  have matched := exists_parameter_of_compile compiled run chosen
  refine ⟨?_, matched, pairwise_not_shareSoleName_iff, isAssignable_iff, ?_, ?_⟩
  · intro parameter member
    obtain ⟨_, _, _, candidate, _⟩ := selectConstructor_eq_declared_iff.mp chosen
    obtain ⟨name, listed, same⟩ := candidate parameter member
    exact ⟨name, listed, sameIgnoringCase_iff.mpr same⟩
  · intro distinct
    apply pairwise_not_shareSoleName_iff.mpr
    intro name _ _
    exact caseCount_le_one_of_caseDistinct distinct name
  · intro distinct
    apply isAssignable_of_caseCount_le
    intro name member
    calc caseCount name (readOnlyNames declaration.target tokens)
        ≤ 1 := caseCount_le_one_of_caseDistinct distinct name
      _ ≤ caseCount name constructor.parameters := caseCount_pos_iff.mpr (matched name member)

end Accepted

def identifierTarget (properties parameters : List String) : TargetType :=
  let empty := (TargetType.ofName "Key").withConstructor ⟨parameters⟩
  properties.foldl (fun target name => target.withProperty (.readOnly (.ofType name .plainGuid)))
    empty

def twinKey (parameters : List String) : KeyDeclaration :=
  ⟨identifierTarget ["Id", "ID"] parameters, .ofTemplate "{ID}-{Id}"⟩

def twinTokens : List Token :=
  [⟨.property "ID" none, .ofLength 0 4⟩, ⟨.delimiter '-', .ofLength 4 1⟩,
    ⟨.property "Id" none, .ofLength 5 4⟩]

def singleKey (parameters : List String) : KeyDeclaration :=
  ⟨identifierTarget ["Id"] parameters, .ofTemplate "{Id}"⟩

theorem twins_pair_up_with_two_parameters :
    IsAssignable ["id", "iD"] (readOnlyNames (twinKey ["id", "iD"]).target twinTokens) := by
  have clean : (twinKey ["id", "iD"]).validated.finish = .ok () := by decide +kernel
  have run : (twinKey ["id", "iD"]).tokens = .ok twinTokens := by decide +kernel
  have chosen : selectConstructor (twinKey ["id", "iD"]).target.constructors
      (declaredNames (twinKey ["id", "iD"]).target twinTokens) =
        .ok (.declared ⟨["id", "iD"]⟩) := by
    decide +kernel
  obtain ⟨spec, compiled⟩ := exists_compile_of_finish clean
  obtain ⟨-, -, -, assignable, -⟩ := accepted_key_pairs_up_by_case compiled run chosen
  exact assignable.mpr (by decide +kernel)

/-- One parameter has to set two properties in the first key, and two parameters set one
property in the second.  Both keys are accepted. -/
theorem accepted_keys_that_do_not_pair_up :
    ((∃ spec, compile (twinKey ["id"]) = .ok spec) ∧
      selectConstructor (twinKey ["id"]).target.constructors ["ID", "Id"] =
        .ok (.declared ⟨["id"]⟩) ∧
      readOnlyNames (twinKey ["id"]).target twinTokens = ["ID", "Id"] ∧
      ¬ IsAssignable ["id"] ["ID", "Id"]) ∧
    (∃ spec, compile (singleKey ["id", "ID"]) = .ok spec) ∧
      selectConstructor (singleKey ["id", "ID"]).target.constructors ["Id"] =
        .ok (.declared ⟨["id", "ID"]⟩) ∧
      ShareSoleName ["Id"] "id" "ID" := by
  refine ⟨⟨?_, by decide +kernel, by decide +kernel, ?_⟩, ?_, by decide +kernel, ?_⟩
  · exact exists_compile_of_finish (by decide +kernel)
  · rw [isAssignable_iff]
    decide +kernel
  · exact exists_compile_of_finish (by decide +kernel)
  · exact ⟨"Id", by decide +kernel, by decide +kernel⟩

end CompositeKey
