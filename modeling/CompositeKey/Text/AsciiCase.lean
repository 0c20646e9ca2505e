/-!
# Equality of names up to ASCII case

Only the letters `A` to `Z` have a second form here; every other character,
letters outside ASCII included, equals only itself.
-/

set_option autoImplicit false

namespace CompositeKey

def asciiFolded (name : String) : List Char := name.toList.map Char.toLower

/-- Whether two names differ at most in the case of their ASCII letters. -/
def sameIgnoringCase (first second : String) : Bool :=
  asciiFolded first == asciiFolded second

theorem sameIgnoringCase_iff {first second : String} :
    sameIgnoringCase first second = true ↔ asciiFolded first = asciiFolded second := by
  simp [sameIgnoringCase]

end CompositeKey
