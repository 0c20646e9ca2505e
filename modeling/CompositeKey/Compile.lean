import CompositeKey.Diagnostic.Validator
import CompositeKey.Template.Checked

/-!
# Compiling key declarations

`compile` gives the key specification of a valid declaration and every
diagnostic of an invalid one.  `compile?` reads the template with ranges that have
to fit, and has no answer where one does not.
-/

set_option autoImplicit false

namespace CompositeKey

namespace KeyDeclaration

def tokens (declaration : KeyDeclaration) : Except TokenizeError (List Token) :=
  tokenize declaration.config.template declaration.config.primarySeparator

def tokens? (declaration : KeyDeclaration) : Option (Except TokenizeError (List Token)) :=
  tokenize? declaration.config.template declaration.config.primarySeparator

def checksOf (declaration : KeyDeclaration) : Except TokenizeError (List Token) → List Check
  | .ok tokens => [.target, .tokens tokens, .parts (buildParts declaration.target tokens)]
  | .error failure => [.target, .tokenizationFailed failure]

def checks (declaration : KeyDeclaration) : List Check :=
  declaration.checksOf declaration.tokens

def validated (declaration : KeyDeclaration) : Validator :=
  (Validator.ofDeclaration declaration).run declaration.checks

end KeyDeclaration

def assembleTokens (declaration : KeyDeclaration) : Except TokenizeError (List Token) →
    Except Diagnostics KeySpec
  | .error failure => .error (.ofTokenizeError failure)
  | .ok tokens =>
      match assemble (buildParts declaration.target tokens).parts declaration.config with
      | .ok spec => .ok spec
      | .error failure => .error (.ofAssembleError failure)

def compileRead (declaration : KeyDeclaration) (read : Except TokenizeError (List Token)) :
    Except Diagnostics KeySpec :=
  match ((Validator.ofDeclaration declaration).run (declaration.checksOf read)).finish with
  | .error diagnostics => .error diagnostics
  | .ok () => assembleTokens declaration read

def compile (declaration : KeyDeclaration) : Except Diagnostics KeySpec :=
  compileRead declaration declaration.tokens

def compile? (declaration : KeyDeclaration) : Option (Except Diagnostics KeySpec) :=
  declaration.tokens?.map (compileRead declaration)

def compileAll (declarations : List KeyDeclaration) : List (Except Diagnostics KeySpec) :=
  declarations.map compile

def compileAll? (declarations : List KeyDeclaration) :
    Option (List (Except Diagnostics KeySpec)) :=
  declarations.mapM compile?

theorem compile_eq_match (declaration : KeyDeclaration) :
    compile declaration =
      match declaration.validated.finish with
      | .error diagnostics => .error diagnostics
      | .ok () => assembleTokens declaration declaration.tokens :=
  rfl

end CompositeKey
