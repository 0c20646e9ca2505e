import CompositeKey.Proofs.Diagnostic.Checks

/-!
# Where repeating properties are misplaced

The validator cuts the tokens into sections and leaves out the last token of each.
What it reports can be told without sections, from a token and the one behind it: a
repeating property is misplaced when a token follows that is no primary delimiter.
-/

set_option autoImplicit false

namespace CompositeKey

/-- The section of a position is named after the primary delimiters in front of it. -/
def sectionLabel (tokens : List Token) (position : Nat) : String :=
  if ¬ hasPrimaryDelimiter tokens then "key"
  else if ¬ hasPrimaryDelimiter (tokens.take position) then "partition key"
  else "sort key"

/-- The token behind a position belongs to the same section. -/
def IsContinued (tokens : List Token) (position : Nat) : Prop :=
  ∃ next ∈ tokens[position + 1]?, ¬ next.value.isPrimaryDelimiter

instance (tokens : List Token) (position : Nat) : Decidable (IsContinued tokens position) :=
  inferInstanceAs (Decidable (∃ next ∈ tokens[position + 1]?, _))

def misplaced? (label : String) (token : Token) : Option Diagnostic :=
  match token.value with
  | .repeatingProperty name _ _ =>
      some
        { code := .misplacedRepeatingPart
          message := s!"repeating property '{name}' must be the last part of the {label}"
          range := some token.range
          subject := some name
          hint := none }
  | _ => none

theorem misplaced?_of_isPrimaryDelimiter {token : Token} {label : String}
    (primary : token.value.isPrimaryDelimiter = true) : misplaced? label token = none := by
  cases value : token.value with
  | repeatingProperty name separator format =>
      rw [value] at primary
      contradiction
  | _ => simp [misplaced?, value]

def misplacedAt? (tokens : List Token) (label : Nat → String) (position : Nat) :
    Option Diagnostic :=
  if IsContinued tokens position then tokens[position]?.bind (misplaced? (label position))
  else none

theorem filterMap_misplacedAt?_cons (token : Token) (rest : List Token) (label : Nat → String) :
    (List.range (rest.length + 1)).filterMap (misplacedAt? (token :: rest) label) =
      (misplacedAt? (token :: rest) label 0).toList ++
        (List.range rest.length).filterMap
          (misplacedAt? rest fun position => label (position + 1)) := by
  rw [List.range_succ_eq_map]
  simp only [List.filterMap_eq_flatMap_toList, List.flatMap_cons, List.flatMap_map]
  rfl

def placeAt (place : Diagnostic.Section) (tokens : List Token) (position : Nat) :
    Diagnostic.Section :=
  if hasPrimaryDelimiter (tokens.take position) then .sortKey else place

theorem placeAt_cons_succ (place : Diagnostic.Section) (token : Token) (rest : List Token)
    (position : Nat) :
    placeAt place (token :: rest) (position + 1) =
      placeAt (if token.value.isPrimaryDelimiter then .sortKey else place) rest position := by
  cases primary : token.value.isPrimaryDelimiter <;>
    simp [placeAt, hasPrimaryDelimiter, primary]

theorem placeAt_of_single {tokens : List Token} (single : hasPrimaryDelimiter tokens = false)
    (place : Diagnostic.Section) (position : Nat) : placeAt place tokens position = place := by
  have front : hasPrimaryDelimiter (tokens.take position) = false := by
    simp only [hasPrimaryDelimiter, List.any_eq_false] at single ⊢
    intro token member
    exact single token (List.mem_of_mem_take member)
  simp [placeAt, front]

theorem sectionLabel_eq (tokens : List Token) (position : Nat) :
    sectionLabel tokens position =
      (placeAt (if hasPrimaryDelimiter tokens then .partitionKey else .key) tokens
        position).label := by
  cases composite : hasPrimaryDelimiter tokens with
  | false =>
      rw [placeAt_of_single composite]
      simp [sectionLabel, composite, Diagnostic.Section.label]
  | true =>
      cases passed : hasPrimaryDelimiter (tokens.take position) <;>
        simp [sectionLabel, placeAt, composite, passed, Diagnostic.Section.label]

theorem isEmpty_sections (tokens : List Token) :
    (sections tokens).2.isEmpty = !hasPrimaryDelimiter tokens := by
  induction tokens with
  | nil => rfl
  | cons token rest ih =>
      simp only [hasPrimaryDelimiter] at ih
      cases primary : token.value.isPrimaryDelimiter with
      | true => simp [sections, hasPrimaryDelimiter, primary]
      | false => simp [sections, hasPrimaryDelimiter, primary, ih]

theorem isContinued_zero_iff {token : Token} {rest : List Token} :
    IsContinued (token :: rest) 0 ↔ (sections rest).1 ≠ [] := by
  cases rest with
  | nil => simp [IsContinued, sections]
  | cons next rest =>
      cases primary : next.value.isPrimaryDelimiter <;> simp [IsContinued, sections, primary]

theorem checkSection_eq_filterMap (place : Diagnostic.Section) (tokens : List Token) :
    checkSection place tokens = tokens.dropLast.filterMap (misplaced? place.label) := by
  rw [checkSection_eq_flatMap, List.filterMap_eq_flatMap_toList]
  apply List.flatMap_congr
  intro token _
  cases named : token.value <;> simp [misplaced?, named, Diagnostic.misplacedRepeatingPart]

theorem checkSection_cons (place : Diagnostic.Section) (label : Nat → String)
    (same : label 0 = place.label) (token : Token) (rest : List Token) :
    checkSection place (token :: (sections rest).1) =
      (misplacedAt? (token :: rest) label 0).toList ++ checkSection place (sections rest).1 := by
  simp only [checkSection_eq_filterMap]
  by_cases last : (sections rest).1 = []
  · have ended : ¬ IsContinued (token :: rest) 0 := isContinued_zero_iff.not_left.mpr last
    rw [misplacedAt?, if_neg ended, last]
    rfl
  · have continued : IsContinued (token :: rest) 0 := isContinued_zero_iff.mpr last
    rw [misplacedAt?, if_pos continued, same, List.dropLast_cons_of_ne_nil last,
      List.filterMap_cons]
    cases reported : misplaced? place.label token <;> simp [reported]

theorem checkSections_eq (place : Diagnostic.Section) (tokens : List Token) :
    checkSection place (sections tokens).1 ++
        (sections tokens).2.flatMap (checkSection .sortKey) =
      (List.range tokens.length).filterMap
        (misplacedAt? tokens fun position => (placeAt place tokens position).label) := by
  induction tokens generalizing place with
  | nil => rfl
  | cons token rest ih =>
      -- Behind a primary delimiter the first section of the rest is a sort key.
      rw [List.length_cons, filterMap_misplacedAt?_cons]
      simp only [placeAt_cons_succ, ← ih]
      cases primary : token.value.isPrimaryDelimiter with
      | true =>
          have unreported (label : Nat → String) : misplacedAt? (token :: rest) label 0 = none := by
            simp [misplacedAt?, misplaced?_of_isPrimaryDelimiter primary]
          simp [sections, primary, unreported, checkSection_eq_filterMap]
      | false =>
          have head := checkSection_cons place
            (fun position => (placeAt place (token :: rest) position).label) rfl token rest
          simp [sections, primary, head]

theorem checkPlacement_eq_filterMap (tokens : List Token) :
    checkPlacement tokens =
      (List.range tokens.length).filterMap (misplacedAt? tokens (sectionLabel tokens)) := by
  have single := isEmpty_sections tokens
  rw [funext (sectionLabel_eq tokens), ← checkSections_eq, checkPlacement_eq_append]
  cases composite : hasPrimaryDelimiter tokens with
  | true => simp [single, composite]
  | false =>
      rw [composite] at single
      simp [List.isEmpty_iff.mp single]

/-- The validator reports, in the order of the tokens and once each, the repeating
properties behind which their section goes on. -/
theorem misplaced_exactly_where_continued (declaration : KeyDeclaration) (tokens : List Token) :
    (checkTokens declaration tokens).filter (fun found => found.code = .misplacedRepeatingPart) =
      (List.range tokens.length).filterMap (misplacedAt? tokens (sectionLabel tokens)) := by
  have placement : ∀ diagnostic ∈ checkPlacement tokens,
      diagnostic.code = .misplacedRepeatingPart := fun _ => code_of_mem_checkPlacement
  rw [checkTokens_eq_append, List.filter_append, List.filter_append,
    filter_checkSeparator_of_ne (by decide), filter_checkMembers_of_ne (by decide) (by decide),
    filter_code_eq_self placement, checkPlacement_eq_filterMap, List.nil_append, List.nil_append]

example :
    (checkPlacement
      [⟨.repeatingProperty "A" ',' none, .empty 0⟩, ⟨.constant "b", .empty 9⟩,
        ⟨.primaryDelimiter '|', .empty 10⟩, ⟨.primaryDelimiter '|', .empty 11⟩,
        ⟨.repeatingProperty "C" ',' none, .empty 12⟩,
        ⟨.repeatingProperty "D" ',' none, .empty 21⟩]).map Diagnostic.message =
      ["repeating property 'A' must be the last part of the partition key",
        "repeating property 'C' must be the last part of the sort key"] := by
  decide +kernel

end CompositeKey
