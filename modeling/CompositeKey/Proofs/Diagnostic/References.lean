import CompositeKey.Diagnostic.Validator
import Mathlib.Data.List.Basic

/-!
# The properties a template refers to

Each declared property that a template names is referred to once, at the first token
that names it and in the order in which the names come first.
-/

set_option autoImplicit false

namespace CompositeKey

def firstNaming? (name : String) (tokens : List Token) : Option Token :=
  tokens.find? fun token => token.value.propertyName? = some name

theorem firstNaming?_cons_of_eq {name : String} {token : Token} (rest : List Token)
    (named : token.value.propertyName? = some name) :
    firstNaming? name (token :: rest) = some token :=
  List.find?_cons_of_pos (by simpa using named)

theorem firstNaming?_cons_of_ne {name : String} {token : Token} (rest : List Token)
    (other : token.value.propertyName? ≠ some name) :
    firstNaming? name (token :: rest) = firstNaming? name rest :=
  List.find?_cons_of_neg (by simpa using other)

theorem mem_of_firstNaming? {name : String} {token : Token} {tokens : List Token}
    (first : firstNaming? name tokens = some token) :
    token ∈ tokens ∧ token.value.propertyName? = some name := by
  have named := List.find?_some first
  exact ⟨List.mem_of_find?_eq_some first, by simpa using named⟩

def firstPosition (name : String) (tokens : List Token) : Nat :=
  tokens.findIdx fun token => token.value.propertyName? = some name

theorem firstPosition_cons_of_eq {name : String} {token : Token} (rest : List Token)
    (named : token.value.propertyName? = some name) : firstPosition name (token :: rest) = 0 := by
  simp [firstPosition, List.findIdx_cons, named]

theorem firstPosition_cons_of_ne {name : String} {token : Token} (rest : List Token)
    (other : token.value.propertyName? ≠ some name) :
    firstPosition name (token :: rest) = firstPosition name rest + 1 := by
  simp [firstPosition, List.findIdx_cons, other]

/-- Whether a token names nothing, or a property that the target type does not have, or
one that was met before. -/
def IsPassed (target : TargetType) (seen : List String) (token : Token) : Prop :=
  ∀ name, token.value.propertyName? = some name → (target.property? name).isSome → name ∈ seen

theorem isPassed_of_named {target : TargetType} {seen : List String} {token : Token}
    {name : String} (named : token.value.propertyName? = some name) :
    IsPassed target (name :: seen) token := by
  intro other same _
  rw [named, Option.some.injEq] at same
  exact same ▸ List.mem_cons_self

section References

variable {target : TargetType} {seen : List String} {token : Token} {tokens rest : List Token}
  {reference : Reference}

theorem referencesFrom_cons_cases (target : TargetType) (seen : List String) (token : Token)
    (rest : List Token) :
    (∃ name property, token.value.propertyName? = some name ∧
        target.property? name = some property ∧ name ∉ seen ∧
        referencesFrom target seen (token :: rest) =
          ⟨name, property, token.range⟩ :: referencesFrom target (name :: seen) rest) ∨
      IsPassed target seen token ∧
        referencesFrom target seen (token :: rest) = referencesFrom target seen rest := by
  unfold IsPassed
  cases named : token.value.propertyName? with
  | none => exact .inr ⟨nofun, by simp only [referencesFrom, named]⟩
  | some name =>
      cases declared : target.property? name with
      | none =>
          refine .inr ⟨?_, by simp only [referencesFrom, named, declared]⟩
          rintro _ ⟨⟩ found
          simp [declared] at found
      | some property =>
          by_cases met : name ∈ seen
          · refine .inr ⟨?_, by simp [referencesFrom, named, declared, met]⟩
            rintro _ ⟨⟩ _
            exact met
          · exact .inl ⟨name, property, rfl, declared, met,
              by simp [referencesFrom, named, declared, met]⟩

theorem property?_of_mem_referencesFrom (member : reference ∈ referencesFrom target seen tokens) :
    target.property? reference.name = some reference.property := by
  induction tokens generalizing seen with
  | nil => contradiction
  | cons token rest ih =>
      obtain ⟨name, property, _, declared, _, added⟩ | ⟨_, passed⟩ :=
        referencesFrom_cons_cases target seen token rest
      · rw [added] at member
        rcases List.mem_cons.mp member with rfl | later
        · exact declared
        · exact ih later
      · rw [passed] at member
        exact ih member

theorem not_mem_of_mem_referencesFrom (member : reference ∈ referencesFrom target seen tokens) :
    reference.name ∉ seen := by
  induction tokens generalizing seen with
  | nil => contradiction
  | cons token rest ih =>
      obtain ⟨name, property, _, _, unmet, added⟩ | ⟨_, passed⟩ :=
        referencesFrom_cons_cases target seen token rest
      · rw [added] at member
        rcases List.mem_cons.mp member with rfl | later
        · exact unmet
        · exact fun met => ih later (List.mem_cons_of_mem name met)
      · rw [passed] at member
        exact ih member

theorem IsPassed.propertyName?_ne (passed : IsPassed target seen token)
    (member : reference ∈ referencesFrom target seen rest) :
    token.value.propertyName? ≠ some reference.name := by
  intro named
  have declared := property?_of_mem_referencesFrom member
  exact not_mem_of_mem_referencesFrom member (passed _ named (by simp [declared]))

theorem firstNaming?_of_mem_referencesFrom
    (member : reference ∈ referencesFrom target seen tokens) :
    ∃ token, firstNaming? reference.name tokens = some token ∧ token.range = reference.range := by
  induction tokens generalizing seen with
  | nil => contradiction
  | cons token rest ih =>
      obtain ⟨name, property, named, _, _, added⟩ | ⟨passed, same⟩ :=
        referencesFrom_cons_cases target seen token rest
      · rw [added] at member
        rcases List.mem_cons.mp member with rfl | later
        · exact ⟨token, firstNaming?_cons_of_eq rest named, rfl⟩
        · have met : IsPassed target (name :: seen) token := isPassed_of_named named
          rw [firstNaming?_cons_of_ne rest (met.propertyName?_ne later)]
          exact ih later
      · rw [same] at member
        rw [firstNaming?_cons_of_ne rest (passed.propertyName?_ne member)]
        exact ih member

theorem IsPassed.pairwise_cons (passed : IsPassed target seen token)
    (ordered : (referencesFrom target seen rest).Pairwise fun first second =>
      firstPosition first.name rest < firstPosition second.name rest) :
    (referencesFrom target seen rest).Pairwise fun first second =>
      firstPosition first.name (token :: rest) < firstPosition second.name (token :: rest) := by
  apply ordered.imp_of_mem
  intro first second firstMember secondMember less
  rw [firstPosition_cons_of_ne rest (passed.propertyName?_ne firstMember),
    firstPosition_cons_of_ne rest (passed.propertyName?_ne secondMember)]
  exact Nat.succ_lt_succ less

theorem pairwise_referencesFrom (target : TargetType) (seen : List String)
    (tokens : List Token) :
    (referencesFrom target seen tokens).Pairwise fun first second =>
      firstPosition first.name tokens < firstPosition second.name tokens := by
  induction tokens generalizing seen with
  | nil => exact .nil
  | cons token rest ih =>
      obtain ⟨name, property, named, _, _, added⟩ | ⟨passed, same⟩ :=
        referencesFrom_cons_cases target seen token rest
      · have met : IsPassed target (name :: seen) token := isPassed_of_named named
        rw [added]
        apply List.Pairwise.cons
        · intro later member
          rw [firstPosition_cons_of_eq rest named,
            firstPosition_cons_of_ne rest (met.propertyName?_ne member)]
          exact Nat.succ_pos _
        · exact met.pairwise_cons (ih (name :: seen))
      · rw [same]
        exact passed.pairwise_cons (ih seen)

end References

/-! ## Declared names -/

/-- The names of declared properties in a template, each once and at its first
occurrence. -/
def declaredNames (target : TargetType) (tokens : List Token) : List String :=
  ((tokens.filterMap fun token => token.value.propertyName?).filter fun name =>
    (target.property? name).isSome).eraseDups

theorem names_referencesFrom (target : TargetType) (seen : List String) (tokens : List Token) :
    (referencesFrom target seen tokens).map Reference.name =
      (((tokens.filterMap fun token => token.value.propertyName?).filter fun name =>
        (target.property? name).isSome).filter fun name => !seen.contains name).eraseDups := by
  -- `seen` holds what `eraseDups` takes out of the tokens behind.
  induction tokens generalizing seen with
  | nil => rfl
  | cons token rest ih =>
      unfold referencesFrom
      cases named : token.value.propertyName? with
      | none => simp only [named, List.filterMap_cons, ih]
      | some name =>
          cases declared : target.property? name with
          | none => simp [named, declared, ih]
          | some property =>
              by_cases met : name ∈ seen
              · simp [named, declared, met, ih]
              · have absent : seen.contains name = false := by simpa using met
                have later : ∀ other, (!(name :: seen).contains other) =
                    (!other == name && !seen.contains other) := by
                  intro other
                  rw [List.contains_cons, Bool.not_or]
                have read : (token :: rest).filterMap (fun token => token.value.propertyName?) =
                    name :: rest.filterMap fun token => token.value.propertyName? := by
                  simp [named]
                rw [read, List.filter_cons_of_pos (by simp [declared]),
                  List.filter_cons_of_pos (by simp [met]), List.eraseDups_cons, List.filter_filter]
                simp only [declared, absent, Bool.false_eq_true, if_false, List.map_cons, ih, later]

theorem names_references (target : TargetType) (tokens : List Token) :
    (references target tokens).map Reference.name = declaredNames target tokens := by
  rw [references, names_referencesFrom, declaredNames]
  congr 1
  simp

theorem mem_declaredNames_iff {target : TargetType} {tokens : List Token} {name : String} :
    name ∈ declaredNames target tokens ↔
      (target.property? name).isSome ∧
        ∃ token ∈ tokens, token.value.propertyName? = some name := by
  simp [declaredNames, and_comm]

theorem pairwise_declaredNames (target : TargetType) (tokens : List Token) :
    (declaredNames target tokens).Pairwise fun first second =>
      firstPosition first tokens < firstPosition second tokens := by
  rw [← names_references, List.pairwise_map]
  exact pairwise_referencesFrom target [] tokens

def NamesDeclared (target : TargetType) (token : Token) : Prop :=
  ∀ name ∈ token.value.propertyName?, (target.property? name).isSome

instance (target : TargetType) : DecidablePred (NamesDeclared target) := fun token =>
  inferInstanceAs (Decidable (∀ name ∈ token.value.propertyName?, _))

theorem referencesFrom_filter (target : TargetType) (seen : List String) (tokens : List Token) :
    referencesFrom target seen (tokens.filter fun token => NamesDeclared target token) =
      referencesFrom target seen tokens := by
  induction tokens generalizing seen with
  | nil => rfl
  | cons token rest ih =>
      by_cases declared : NamesDeclared target token
      · rw [List.filter_cons_of_pos (by simpa using declared)]
        simp only [referencesFrom, ih]
      · rw [List.filter_cons_of_neg (by simpa using declared), ih]
        obtain ⟨name, property, named, found, _⟩ | ⟨_, same⟩ :=
          referencesFrom_cons_cases target seen token rest
        · refine absurd ?_ declared
          intro other same
          rw [named, Option.mem_some] at same
          rw [← same, found]
          rfl
        · exact same.symm

end CompositeKey
