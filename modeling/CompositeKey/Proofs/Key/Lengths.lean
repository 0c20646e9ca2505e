import CompositeKey.Key.Spec
import CompositeKey.Proofs.Key.Classification
import Mathlib.Algebra.GroupWithZero.Nat
import Mathlib.Data.List.Forall2

/-!
# Lengths of parts and of what they are built from

A part is as long as its token is written, or as long as the values of its property
are.  Lengths of a sequence of parts are sums; a sequence has an exact length when
all of its parts have one.
-/

set_option autoImplicit false

namespace CompositeKey

theorem exactLength?_eq (parts : List KeyPart) :
    exactLength? parts = if parts.all KeyPart.isExact then some (minLength parts) else none := by
  induction parts with
  | nil => rfl
  | cons part rest ih =>
      rw [exactLength?, ih, List.all_cons, minLength]
      cases part.isExact with
      | false => rfl
      | true => cases rest.all KeyPart.isExact <;> rfl

theorem exactLength?_eq_some_iff {parts : List KeyPart} {length : Nat} :
    exactLength? parts = some length ↔
      parts.all KeyPart.isExact = true ∧ minLength parts = length := by
  rw [exactLength?_eq]
  cases parts.all KeyPart.isExact <;> simp

theorem minLength_append (first second : List KeyPart) :
    minLength (first ++ second) = minLength first + minLength second := by
  induction first with
  | nil => simp [minLength]
  | cons part rest ih =>
      rw [List.cons_append, minLength, ih, minLength]
      omega

theorem CompositeSpec.exactLength?_parts_eq_some_iff {whole : CompositeSpec} {length : Nat} :
    exactLength? whole.parts = some length ↔
      ∃ before after, exactLength? whole.partition = some before ∧
        exactLength? whole.sort = some after ∧ length = before + 1 + after := by
  have exact : whole.parts.all KeyPart.isExact = true ↔
      whole.partition.all KeyPart.isExact = true ∧ whole.sort.all KeyPart.isExact = true := by
    rw [CompositeSpec.parts, List.all_append, List.all_cons, KeyPart.isExact, Bool.true_and,
      Bool.and_eq_true]
  have sum : minLength whole.parts = minLength whole.partition + 1 + minLength whole.sort := by
    rw [CompositeSpec.parts, minLength_append, minLength, KeyPart.length]
    omega
  simp only [exactLength?_eq_some_iff, exact, sum]
  constructor
  · intro found
    obtain ⟨⟨before, after⟩, same⟩ := found
    exact ⟨_, _, ⟨before, rfl⟩, ⟨after, rfl⟩, same.symm⟩
  · intro found
    obtain ⟨_, _, ⟨before, rfl⟩, ⟨after, rfl⟩, same⟩ := found
    exact ⟨⟨before, after⟩, same.symm⟩

/-- How the values of a property token are classified: those of the property, or its
elements where the token repeats. -/
def valueClassification? (target : TargetType) (token : Token) : Option Classification :=
  match token.value with
  | .property name format => do
      let property ← target.property? name
      (classify property.type format).toOption
  | .repeatingProperty name _ format => do
      let property ← target.property? name
      let element ← property.type.element?
      (classify element format).toOption
  | _ => none

def IsIdentifier (target : TargetType) (token : Token) : Prop :=
  ∃ name format property typeName, token.value = .property name format ∧
    target.property? name = some property ∧ property.type = .guid typeName

inductive Measures (target : TargetType) (token : Token) (part : KeyPart) : Prop where
  | literal (unnamed : token.value.propertyName? = none)
      (unclassified : valueClassification? target token = none)
      (length : part.length = token.value.written.length) (exact : part.isExact = true)
  | value {name : String} {found : Classification} (named : token.value.propertyName? = some name)
      (classified : valueClassification? target token = some found)
      (length : part.length = found.length)
      (exact : part.isExact = true ↔ IsIdentifier target token)

theorem measures_of_buildPart {target : TargetType} {token : Token} {part : KeyPart}
    (built : buildPart target token = .ok part) : Measures target token part := by
  obtain ⟨value, range⟩ := token
  cases value with
  | property name format =>
      cases declared : target.property? name with
      | none => simp [buildPart, declared] at built
      | some property =>
          simp only [buildPart, declared, scalarPart] at built
          cases classified : classify property.type format with
          | error failure => cases failure <;> simp [classified] at built
          | ok found =>
              rw [classified] at built
              cases built
              refine .value rfl ?_ rfl ?_
              · simp [valueClassification?, declared, classified, Except.toOption]
              · change found.isExact = true ↔ _
                rw [isExact_iff_of_classify classified]
                simp [IsIdentifier, declared]
  | repeatingProperty name separator format =>
      cases declared : target.property? name with
      | none => simp [buildPart, declared] at built
      | some property =>
          simp only [buildPart, declared, repeatingPart] at built
          cases collected : property.type.element? with
          | none => simp [collected] at built
          | some element =>
              rw [collected] at built
              cases classified : classify element format with
              | error failure => simp [classified] at built
              | ok found =>
                  simp only [classified] at built
                  cases built
                  refine .value rfl ?_ rfl ?_
                  · simp [valueClassification?, declared, collected, classified, Except.toOption]
                  · simp [KeyPart.isExact, IsIdentifier]
  | constant text =>
      cases built
      exact .literal rfl rfl String.length_toList.symm rfl
  | delimiter c =>
      cases built
      exact .literal rfl rfl rfl rfl
  | primaryDelimiter c =>
      cases built
      exact .literal rfl rfl rfl rfl

def textOutside (tokens : List Token) : List Char :=
  (tokens.filter fun token => token.value.propertyName?.isNone).flatMap fun token =>
    token.value.written

def valueLengths (target : TargetType) (tokens : List Token) : List Nat :=
  (tokens.filterMap (valueClassification? target)).map Classification.length

section Tokens

variable {target : TargetType} {tokens : List Token} {parts : List KeyPart}

theorem minLength_of_measures (measured : List.Forall₂ (Measures target) tokens parts) :
    minLength parts = (textOutside tokens).length + (valueLengths target tokens).sum := by
  induction measured with
  | nil => rfl
  | cons first _ ih =>
      rw [minLength, ih]
      cases first with
      | literal unnamed unclassified length _ =>
          simp [textOutside, valueLengths, unnamed, unclassified, length, Nat.add_assoc]
      | value named classified length _ =>
          simp [textOutside, valueLengths, named, classified, length, Nat.add_left_comm]

theorem all_isExact_of_measures (measured : List.Forall₂ (Measures target) tokens parts) :
    parts.all KeyPart.isExact = true ↔
      ∀ token ∈ tokens, token.value.propertyName?.isSome → IsIdentifier target token := by
  induction measured with
  | nil => simp
  | cons first _ ih =>
      rw [List.all_cons, Bool.and_eq_true, ih, List.forall_mem_cons]
      apply and_congr_left
      intro _
      cases first with
      | literal unnamed _ _ exact => simp [unnamed, exact]
      | value named _ _ exact => simp [named, exact]

theorem isSome_valueClassification? (measured : List.Forall₂ (Measures target) tokens parts) :
    ∀ token ∈ tokens, token.value.propertyName?.isSome →
      (valueClassification? target token).isSome := by
  induction measured with
  | nil => simp
  | cons first _ ih =>
      rw [List.forall_mem_cons]
      refine ⟨?_, ih⟩
      intro found
      cases first with
      | literal unnamed _ _ _ => simp [unnamed] at found
      | value _ classified _ _ => simp [classified]

end Tokens

end CompositeKey
