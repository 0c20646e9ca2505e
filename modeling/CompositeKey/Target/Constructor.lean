import CompositeKey.Text.AsciiCase

/-!
# Constructors and the choice between them

Parsing a key calls one constructor of the target type.  A constructor is a
candidate when each of its parameters matches a property of the template up to
ASCII case; the candidate with the most parameters is called.
-/

set_option autoImplicit false

namespace CompositeKey

structure Constructor where
  parameters : List String
deriving DecidableEq

namespace Constructor

def binds (constructor : Constructor) (property : String) : Bool :=
  constructor.parameters.any fun parameter => sameIgnoringCase parameter property

def isCandidate (constructor : Constructor) (properties : List String) : Bool :=
  constructor.parameters.all fun parameter =>
    properties.any fun property => sameIgnoringCase parameter property

end Constructor

inductive ConstructorChoice where
  | implicit
  | declared (constructor : Constructor)
deriving DecidableEq

def ConstructorChoice.binds : ConstructorChoice → String → Bool
  | .implicit, _ => false
  | .declared constructor, property => constructor.binds property

inductive ConstructorError where
  | noMatch
  | ambiguous (candidates : Nat)
deriving DecidableEq

def widestConstructors (constructors : List Constructor) : List Constructor :=
  match (constructors.map fun constructor => constructor.parameters.length).max? with
  | none => []
  | some widest =>
      constructors.filter fun constructor => constructor.parameters.length == widest

def selectConstructor (constructors : List Constructor) (properties : List String) :
    Except ConstructorError ConstructorChoice :=
  if constructors.isEmpty then .ok .implicit
  else
    match widestConstructors (constructors.filter (·.isCandidate properties)) with
    | [] => .error .noMatch
    | [only] => .ok (.declared only)
    | tied => .error (.ambiguous tied.length)

end CompositeKey
