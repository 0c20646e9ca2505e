import CompositeKey.Key.Part

/-!
# Key specifications

A key without a primary delimiter is one sequence of parts.  A key with one is
the parts in front of it, the partition key, and the parts behind it, the sort
key.
-/

set_option autoImplicit false

namespace CompositeKey

structure PrimarySpec where
  parts : List KeyPart
  invariantFormatting : Bool
deriving DecidableEq

structure CompositeSpec where
  partition : List KeyPart
  delimiter : DelimiterPart
  sort : List KeyPart
  invariantFormatting : Bool
deriving DecidableEq

def exactLength? : List KeyPart → Option Nat
  | [] => some 0
  | part :: rest => if part.isExact then (exactLength? rest).map (part.length + ·) else none

def minLength : List KeyPart → Nat
  | [] => 0
  | part :: rest => part.length + minLength rest

namespace CompositeSpec

def parts (spec : CompositeSpec) : List KeyPart :=
  spec.partition ++ .primaryDelimiter spec.delimiter :: spec.sort

/-- Splits parts at a position, where a primary delimiter has to stand. -/
def ofParts? (parts : List KeyPart) (index : Nat) (invariantFormatting : Bool) :
    Option CompositeSpec :=
  match parts.drop index with
  | .primaryDelimiter delimiter :: sort =>
      some ⟨parts.take index, delimiter, sort, invariantFormatting⟩
  | _ => none

theorem parts_of_ofParts? {parts : List KeyPart} {index : Nat} {invariantFormatting : Bool}
    {spec : CompositeSpec} (split : ofParts? parts index invariantFormatting = some spec) :
    spec.parts = parts := by
  unfold ofParts? at split
  split at split
  · rename_i delimiter sort found
    simp only [Option.some.injEq] at split
    subst split
    rw [CompositeSpec.parts, ← found]
    exact List.take_append_drop index parts
  · contradiction

end CompositeSpec

inductive KeySpec where
  | primary (spec : PrimarySpec)
  | composite (spec : CompositeSpec)
deriving DecidableEq

namespace KeySpec

def parts : KeySpec → List KeyPart
  | .primary spec => spec.parts
  | .composite spec => spec.parts

def invariantFormatting : KeySpec → Bool
  | .primary spec => spec.invariantFormatting
  | .composite spec => spec.invariantFormatting

def isComposite : KeySpec → Bool
  | .primary _ => false
  | .composite _ => true

def exactLength? (spec : KeySpec) : Option Nat := CompositeKey.exactLength? spec.parts

def minLength (spec : KeySpec) : Nat := CompositeKey.minLength spec.parts

end KeySpec

inductive AssembleError where
  | unusedPrimarySeparator (separator : Char)
  | multiplePrimaryDelimiters (count : Nat)
deriving DecidableEq

def AssembleError.message : AssembleError → String
  | .unusedPrimarySeparator separator =>
      s!"primary separator '{separator}' is configured but never used in the template"
  | .multiplePrimaryDelimiters count =>
      s!"key has {count} primary delimiters, at most one is allowed"

def splitAtDelimiter : List KeyPart → Option (List KeyPart × DelimiterPart × List KeyPart)
  | [] => none
  | .primaryDelimiter delimiter :: rest => some ([], delimiter, rest)
  | part :: rest =>
      (splitAtDelimiter rest).map fun found => (part :: found.1, found.2.1, found.2.2)

def assemble (parts : List KeyPart) (config : KeyConfig) : Except AssembleError KeySpec :=
  match splitAtDelimiter parts with
  | none =>
      match config.primarySeparator with
      | some separator => .error (.unusedPrimarySeparator separator)
      | none => .ok (.primary ⟨parts, config.invariantFormatting⟩)
  | some (partition, delimiter, sort) =>
      if sort.any KeyPart.isPrimaryDelimiter then
        .error (.multiplePrimaryDelimiters (parts.countP KeyPart.isPrimaryDelimiter))
      else .ok (.composite ⟨partition, delimiter, sort, config.invariantFormatting⟩)

end CompositeKey
