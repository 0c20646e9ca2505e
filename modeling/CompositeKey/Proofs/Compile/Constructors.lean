import CompositeKey.Proofs.Compile.Dependence
import CompositeKey.Proofs.Target.Respelling

/-!
# Compiling with respelled constructors

Only the checks of members look at constructors, and they look at the choice that
is made among them.
-/

set_option autoImplicit false

namespace CompositeKey

def KeyDeclaration.withConstructors (declaration : KeyDeclaration)
    (constructors : List Constructor) : KeyDeclaration :=
  { declaration with target := { declaration.target with constructors := constructors } }

theorem checkAccess_congr {first second : ConstructorChoice}
    (binds : ∀ property, first.binds property = second.binds property) (reference : Reference) :
    checkAccess (some first) reference = checkAccess (some second) reference := by
  simp only [checkAccess_eq_append, binds]

section Respelled

variable (declaration : KeyDeclaration) {constructors : List Constructor}

theorem agreeOn_withConstructors (names : List String) :
    AgreeOn names (declaration.withConstructors constructors).target declaration.target := by
  intro name _
  rfl

theorem checkMembers_withConstructors
    (respelling : Respelling declaration.target.constructors constructors) (tokens : List Token) :
    checkMembers (declaration.withConstructors constructors).target tokens =
      checkMembers declaration.target tokens := by
  have referenced : references (declaration.withConstructors constructors).target tokens =
      references declaration.target tokens := by
    apply referencesFrom_congr
    exact agreeOn_withConstructors declaration _
  simp only [checkMembers_eq_flatMap, referenced]
  generalize (references declaration.target tokens).map Reference.name = names
  have chosen : SameChoice (selectConstructor declaration.target.constructors names)
      (selectConstructor (declaration.withConstructors constructors).target.constructors names) :=
    respelling.selectConstructor names
  generalize selectConstructor declaration.target.constructors names = old at chosen ⊢
  generalize selectConstructor (declaration.withConstructors constructors).target.constructors
    names = new at chosen ⊢
  cases chosen with
  | error failure => cases failure <;> rfl
  | ok binds =>
      apply List.flatMap_congr
      intro reference _
      exact (checkAccess_congr binds reference).symm

theorem compile_withConstructors
    (respelling : Respelling declaration.target.constructors constructors) :
    compile (declaration.withConstructors constructors) = compile declaration := by
  apply compile_congr
  · rfl
  · rfl
  · intro tokens _
    exact checkMembers_withConstructors declaration respelling tokens
  · intro tokens _
    exact buildParts_congr (agreeOn_withConstructors declaration _)

/-- The order of constructors and of their parameters, and the ASCII case of
parameters, have no influence on what is compiled or reported. -/
theorem compile_ignores_spelling_of_constructors
    (respelling : Respelling declaration.target.constructors constructors) :
    compile (declaration.withConstructors constructors) = compile declaration ∧
      compile? (declaration.withConstructors constructors) = compile? declaration := by
  have same := compile_withConstructors declaration respelling
  exact ⟨same, compile?_congr rfl same⟩

end Respelled

def readOnlyKey (constructors : List Constructor) : KeyDeclaration :=
  ⟨{ ((TargetType.ofName "Key").withProperty (.ofType "A" .plainGuid)).withProperty
      (PropertyInfo.ofType "B" .plainString).readOnly with constructors := constructors },
    ⟨"{A}|{B}", some '|', true⟩⟩

theorem read_only_key_compiles_alike :
    ∃ spec, compile (readOnlyKey [⟨[]⟩, ⟨["a"]⟩, ⟨["a", "b"]⟩]) = .ok spec ∧
      compile (readOnlyKey [⟨["B", "A"]⟩, ⟨[]⟩, ⟨["A"]⟩]) = .ok spec := by
  have respelling : Respelling [⟨[]⟩, ⟨["a"]⟩, ⟨["a", "b"]⟩] [⟨["B", "A"]⟩, ⟨[]⟩, ⟨["A"]⟩] := by
    refine ⟨[⟨["a", "b"]⟩, ⟨[]⟩, ⟨["a"]⟩], by decide, ?_⟩
    refine .cons ⟨["b", "a"], by decide, ?_⟩ (.cons ⟨[], by decide, .nil⟩
      (.cons ⟨["a"], by decide, ?_⟩ .nil))
    · exact .cons (by decide) (.cons (by decide) .nil)
    · exact .cons (by decide) .nil
  obtain ⟨same, _⟩ := compile_ignores_spelling_of_constructors
    (readOnlyKey [⟨[]⟩, ⟨["a"]⟩, ⟨["a", "b"]⟩]) respelling
  have clean : (readOnlyKey [⟨[]⟩, ⟨["a"]⟩, ⟨["a", "b"]⟩]).validated.finish = .ok () := by
    decide +kernel
  obtain ⟨tokens, spec, run, assembled⟩ := exists_assemble_of_finish clean
  have compiled := compile_of_assemble clean run assembled
  exact ⟨spec, compiled, same.trans compiled⟩

end CompositeKey
