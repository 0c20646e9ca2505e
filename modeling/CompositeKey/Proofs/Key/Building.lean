import CompositeKey.Key.Part
import CompositeKey.Proofs.Target.Keyed
import Mathlib.Data.List.Forall2

/-!
# Parts and the tokens they are built from

A part keeps everything its token says.  Building loses only tokens that name a
property, and a list without errors has one part for each token.
-/

set_option autoImplicit false

namespace CompositeKey

/-- The part says what the token says, at the same place, about the property
that the target type has under the token's name. -/
inductive IsPartOf (target : TargetType) : Token → KeyPart → Prop where
  | constant (text : String) (range : TextRange) :
      IsPartOf target ⟨.constant text, range⟩ (.constant text range)
  | delimiter (c : Char) (range : TextRange) :
      IsPartOf target ⟨.delimiter c, range⟩ (.delimiter ⟨c, range⟩)
  | primaryDelimiter (c : Char) (range : TextRange) :
      IsPartOf target ⟨.primaryDelimiter c, range⟩ (.primaryDelimiter ⟨c, range⟩)
  | property {name : String} {format : Option String} {range : TextRange} {part : PropertyPart}
      (declared : target.property? name = some part.property) (sameFormat : part.format = format)
      (sameRange : part.range = range) :
      IsPartOf target ⟨.property name format, range⟩ (.property part)
  | repeating {name : String} {separator : Char} {format : Option String} {range : TextRange}
      {part : RepeatingPart} (declared : target.property? name = some part.property)
      (sameSeparator : part.separator = separator) (sameFormat : part.format = format)
      (sameRange : part.range = range) :
      IsPartOf target ⟨.repeatingProperty name separator format, range⟩ (.repeating part)

def KeyPart.token (part : KeyPart) : Token :=
  ⟨match part with
    | .constant text _ => .constant text
    | .delimiter part => .delimiter part.value
    | .primaryDelimiter part => .primaryDelimiter part.value
    | .property part => .property part.property.name part.format
    | .repeating part => .repeatingProperty part.property.name part.separator part.format,
    part.range⟩

def partFailure? (target : TargetType) (token : Token) : Option PartError :=
  match buildPart target token with
  | .ok _ => none
  | .error failure => some failure

variable {target : TargetType}

theorem partFailure?_eq_some_iff {token : Token} {failure : PartError} :
    partFailure? target token = some failure ↔ buildPart target token = .error failure := by
  unfold partFailure?
  cases buildPart target token with
  | ok part => simp
  | error found => simp

theorem isPartOf_of_buildPart {token : Token} {part : KeyPart}
    (built : buildPart target token = .ok part) : IsPartOf target token part := by
  obtain ⟨value, range⟩ := token
  cases value with
  | constant text =>
      cases built
      exact .constant text range
  | delimiter c =>
      cases built
      exact .delimiter c range
  | primaryDelimiter c =>
      cases built
      exact .primaryDelimiter c range
  | property name format =>
      cases declared : target.property? name with
      | none => simp [buildPart, declared] at built
      | some property =>
          simp only [buildPart, declared, scalarPart] at built
          split at built
          · cases built
            exact .property declared rfl rfl
          · cases built
          · cases built
  | repeatingProperty name separator format =>
      cases declared : target.property? name with
      | none => simp [buildPart, declared] at built
      | some property =>
          simp only [buildPart, declared, repeatingPart] at built
          split at built
          · cases built
          · split at built
            · cases built
              exact .repeating declared rfl rfl rfl
            · cases built

/-- A part is written as its token where properties stand under their names. -/
theorem IsPartOf.token_eq {token : Token} {part : KeyPart}
    (keyed : KeyedByName target.properties) (image : IsPartOf target token part) :
    part.token = token := by
  cases image with
  | property declared sameFormat sameRange =>
      rw [← keyed _ _ declared, ← sameFormat, ← sameRange]
      rfl
  | repeating declared sameSeparator sameFormat sameRange =>
      rw [← keyed _ _ declared, ← sameSeparator, ← sameFormat, ← sameRange]
      rfl
  | _ => rfl

theorem IsPartOf.isPrimaryDelimiter_eq {token : Token} {part : KeyPart}
    (image : IsPartOf target token part) :
    part.isPrimaryDelimiter = token.value.isPrimaryDelimiter := by
  cases image <;> rfl

theorem isPrimaryDelimiter_of_partFailure? {token : Token} {failure : PartError}
    (failed : partFailure? target token = some failure) :
    token.value.isPrimaryDelimiter = false := by
  obtain ⟨value, range⟩ := token
  cases value with
  | primaryDelimiter c => simp [partFailure?, buildPart] at failed
  | _ => rfl

theorem buildParts_cons_ok {token : Token} {rest : List Token} {part : KeyPart}
    (built : buildPart target token = .ok part) :
    buildParts target (token :: rest) =
      ⟨part :: (buildParts target rest).parts, (buildParts target rest).errors⟩ := by
  simp [buildParts, built]

theorem buildParts_cons_error {token : Token} {rest : List Token} {failure : PartError}
    (failed : buildPart target token = .error failure) :
    buildParts target (token :: rest) =
      ⟨(buildParts target rest).parts, failure :: (buildParts target rest).errors⟩ := by
  simp [buildParts, failed]

theorem errors_buildParts (target : TargetType) (tokens : List Token) :
    (buildParts target tokens).errors = tokens.filterMap (partFailure? target) := by
  induction tokens with
  | nil => rfl
  | cons token rest ih =>
      cases built : buildPart target token with
      | ok part =>
          have absent : partFailure? target token = none := by simp [partFailure?, built]
          rw [buildParts_cons_ok built, List.filterMap_cons_none absent, ih]
      | error failure =>
          have present := partFailure?_eq_some_iff.mpr built
          rw [buildParts_cons_error built, List.filterMap_cons_some present, ih]

theorem countP_parts_buildParts (target : TargetType) (tokens : List Token) :
    (buildParts target tokens).parts.countP KeyPart.isPrimaryDelimiter =
      tokens.countP fun token => token.value.isPrimaryDelimiter := by
  induction tokens with
  | nil => rfl
  | cons token rest ih =>
      cases built : buildPart target token with
      | ok part =>
          have same := (isPartOf_of_buildPart built).isPrimaryDelimiter_eq
          rw [buildParts_cons_ok built, List.countP_cons, List.countP_cons, same, ih]
      | error failure =>
          have present := partFailure?_eq_some_iff.mpr built
          have other := isPrimaryDelimiter_of_partFailure? present
          rw [buildParts_cons_error built, List.countP_cons_of_neg (by simp [other]), ih]

theorem forall₂_buildPart {tokens : List Token}
    (complete : (buildParts target tokens).errors = []) :
    List.Forall₂ (fun token part => buildPart target token = .ok part) tokens
      (buildParts target tokens).parts := by
  induction tokens with
  | nil => exact .nil
  | cons token rest ih =>
      cases built : buildPart target token with
      | ok part =>
          rw [buildParts_cons_ok built] at complete ⊢
          exact .cons built (ih complete)
      | error failure => simp [buildParts_cons_error built] at complete

theorem isPartOf_parts_buildParts {tokens : List Token}
    (complete : (buildParts target tokens).errors = []) :
    List.Forall₂ (IsPartOf target) tokens (buildParts target tokens).parts := by
  apply (forall₂_buildPart complete).imp
  intro token part built
  exact isPartOf_of_buildPart built

theorem map_token_of_isPartOf {tokens : List Token} {parts : List KeyPart}
    (keyed : KeyedByName target.properties)
    (image : List.Forall₂ (IsPartOf target) tokens parts) : parts.map KeyPart.token = tokens := by
  induction image with
  | nil => rfl
  | cons first _ ih => rw [List.map_cons, first.token_eq keyed, ih]

end CompositeKey
