/-!
# Byte ranges of a text

Offsets count UTF-8 bytes and fit in 32 bits.  `TextRange.ofLength` moves every
end past the largest offset down to it; `TextRange.ofLength?` is the checked
form, which gives a range only when the two clamped numbers can be added in 32
bits.  `TextRange.ofLength?_eq_some_iff` says when that is the case.
-/

set_option autoImplicit false

namespace CompositeKey

def maxOffset : Nat := 4294967295

def clampOffset (offset : Nat) : Nat := min offset maxOffset

theorem clampOffset_le (offset : Nat) : clampOffset offset ≤ maxOffset :=
  Nat.min_le_right offset maxOffset

theorem clampOffset_of_le {offset : Nat} (small : offset ≤ maxOffset) :
    clampOffset offset = offset :=
  Nat.min_eq_left small

theorem clampOffset_mono {first second : Nat} (le : first ≤ second) :
    clampOffset first ≤ clampOffset second := by
  simp only [clampOffset]
  omega

/-- The bytes from `start` up to, and without, `stop`. -/
structure TextRange where
  start : Nat
  stop : Nat
  ordered : start ≤ stop
  bounded : stop ≤ maxOffset
deriving DecidableEq

namespace TextRange

@[ext]
theorem ext {first second : TextRange} (starts : first.start = second.start)
    (stops : first.stop = second.stop) : first = second := by
  cases first
  cases second
  simp_all

def ofEnds? (start stop : Nat) : Option TextRange :=
  if ends : start ≤ stop ∧ stop ≤ maxOffset then some ⟨start, stop, ends.1, ends.2⟩ else none

def empty (offset : Nat) : TextRange :=
  ⟨clampOffset offset, clampOffset offset, Nat.le_refl _, clampOffset_le offset⟩

/-- The `length` bytes from `start`, each end clamped. -/
def ofLength (start length : Nat) : TextRange :=
  ⟨clampOffset start, clampOffset (start + length), clampOffset_mono (Nat.le_add_right ..),
    clampOffset_le _⟩

/-- The `length` bytes from `start`: the clamped length is added to the clamped start,
and the sum has to be an offset again. -/
def ofLength? (start length : Nat) : Option TextRange :=
  ofEnds? (clampOffset start) (clampOffset start + clampOffset length)

theorem ofLength?_eq_some_iff {start length : Nat} {range : TextRange} :
    ofLength? start length = some range ↔
      clampOffset start + clampOffset length ≤ maxOffset ∧ range = ofLength start length := by
  have ordered : clampOffset start ≤ clampOffset start + clampOffset length :=
    Nat.le_add_right ..
  by_cases fits : clampOffset start + clampOffset length ≤ maxOffset
  · have stop : clampOffset start + clampOffset length = clampOffset (start + length) := by
      simp only [clampOffset, maxOffset] at fits ⊢
      omega
    have made : ofLength? start length = some (ofLength start length) := by
      simp only [ofLength?, ofEnds?, dif_pos (And.intro ordered fits), Option.some.injEq]
      exact TextRange.ext rfl stop
    rw [made, Option.some.injEq]
    exact ⟨fun same => ⟨fits, same.symm⟩, fun found => found.2.symm⟩
  · have absent : ofLength? start length = none :=
      dif_neg fun ends => fits ends.2
    rw [absent]
    exact ⟨fun found => (by cases found), fun found => absurd found.1 fits⟩

def written (range : TextRange) : String :=
  toString range.start ++ ".." ++ toString range.stop

end TextRange

end CompositeKey
