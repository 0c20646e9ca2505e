import CompositeKey.Diagnostic.Basic

/-!
# Validating a declaration

A `Validator` collects diagnostics.  Each check adds those of its own condition, one
after another, to what was collected before it.
-/

set_option autoImplicit false

namespace CompositeKey

def collect (diagnostic : Diagnostic) (found : List Diagnostic) : List Diagnostic :=
  found ++ [diagnostic]

def collectUnless (holds : Bool) (diagnostic : Diagnostic) (found : List Diagnostic) :
    List Diagnostic :=
  if holds then found else collect diagnostic found

def collectTarget (target : TargetType) (found : List Diagnostic) : List Diagnostic :=
  collectUnless target.isPartial (.targetNotPartial target)
    (collectUnless target.shape.isAugmentable (.unsupportedTargetShape target) found)

def hasPrimaryDelimiter (tokens : List Token) : Bool :=
  tokens.any fun token => token.value.isPrimaryDelimiter

def collectSeparator (config : KeyConfig) (tokens : List Token) (found : List Diagnostic) :
    List Diagnostic :=
  match config.primarySeparator with
  | none => found
  | some separator =>
      collectUnless (hasPrimaryDelimiter tokens) (.unusedPrimarySeparator separator) found

structure Reference where
  name : String
  property : PropertyInfo
  range : TextRange
deriving DecidableEq

/-- The declared properties among the names of a template, each at the first
token that names it; `seen` holds the names met before. -/
def referencesFrom (target : TargetType) (seen : List String) : List Token → List Reference
  | [] => []
  | token :: rest =>
      match token.value.propertyName? with
      | none => referencesFrom target seen rest
      | some name =>
          match target.property? name with
          | none => referencesFrom target seen rest
          | some property =>
              if seen.contains name then referencesFrom target seen rest
              else ⟨name, property, token.range⟩ :: referencesFrom target (name :: seen) rest

def references (target : TargetType) (tokens : List Token) : List Reference :=
  referencesFrom target [] tokens

/-- Formatting needs a getter.  Parsing needs a setter or a parameter of the
chosen constructor; without a chosen constructor nothing is said about it. -/
def collectAccess (choice : Option ConstructorChoice) (found : List Diagnostic)
    (reference : Reference) : List Diagnostic :=
  let read := collectUnless reference.property.isReadable
    (.inaccessibleProperty reference.name reference.range .read) found
  match choice with
  | none => read
  | some choice =>
      collectUnless (reference.property.isWritable || choice.binds reference.name)
        (.inaccessibleProperty reference.name reference.range .write) read

def collectMembers (target : TargetType) (tokens : List Token) (found : List Diagnostic) :
    List Diagnostic :=
  let referenced := references target tokens
  match selectConstructor target.constructors (referenced.map Reference.name) with
  | .ok choice => referenced.foldl (collectAccess (some choice)) found
  | .error failure =>
      referenced.foldl (collectAccess none) (collect (.constructorError target failure) found)

/-- The runs of tokens between primary delimiters; there is always a first one. -/
def sections : List Token → List Token × List (List Token)
  | [] => ([], [])
  | token :: rest =>
      let (first, others) := sections rest
      if token.value.isPrimaryDelimiter then ([], first :: others) else (token :: first, others)

def collectMisplaced (place : Diagnostic.Section) (found : List Diagnostic) (token : Token) :
    List Diagnostic :=
  match token.value with
  | .repeatingProperty name _ _ =>
      collect (.misplacedRepeatingPart name token.range place.label) found
  | _ => found

def collectSection (place : Diagnostic.Section) (found : List Diagnostic) (tokens : List Token) :
    List Diagnostic :=
  tokens.dropLast.foldl (collectMisplaced place) found

def collectPlacement (tokens : List Token) (found : List Diagnostic) : List Diagnostic :=
  let (first, others) := sections tokens
  if others.isEmpty then collectSection .key found first
  else others.foldl (collectSection .sortKey) (collectSection .partitionKey found first)

def collectTokens (declaration : KeyDeclaration) (tokens : List Token)
    (found : List Diagnostic) : List Diagnostic :=
  collectPlacement tokens
    (collectMembers declaration.target tokens (collectSeparator declaration.config tokens found))

def collectParts (built : KeyParts) (found : List Diagnostic) : List Diagnostic :=
  built.errors.foldl (fun found failure => collect (.partError failure) found) found

inductive Check where
  | target
  | tokens (read : List Token)
  | parts (built : KeyParts)
  | tokenizationFailed (failure : TokenizeError)
deriving DecidableEq

def Check.collect (declaration : KeyDeclaration) :
    Check → List Diagnostic → List Diagnostic
  | .target => collectTarget declaration.target
  | .tokens read => collectTokens declaration read
  | .parts built => collectParts built
  | .tokenizationFailed failure => CompositeKey.collect (.tokenizationFailure failure)

structure Validator where
  declaration : KeyDeclaration
  found : List Diagnostic
deriving DecidableEq

namespace Validator

def ofDeclaration (declaration : KeyDeclaration) : Validator := ⟨declaration, []⟩

def check (validator : Validator) (check : Check) : Validator :=
  { validator with found := check.collect validator.declaration validator.found }

def run (validator : Validator) (checks : List Check) : Validator :=
  checks.foldl Validator.check validator

def finish (validator : Validator) : Except Diagnostics Unit :=
  match Diagnostics.ofList? validator.found with
  | none => .ok ()
  | some diagnostics => .error diagnostics

end Validator

end CompositeKey
