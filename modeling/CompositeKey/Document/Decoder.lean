import CompositeKey.Document.Basic

/-!
# Decoders

A decoder takes a value of a document apart.  It is told how many levels of
lists and records it may still go down.  Links are followed where a value is
looked at, and only so many of them in a whole document; nothing is looked at
twice, so each link counts as often as it is met.
-/

set_option autoImplicit false

namespace CompositeKey

/-- A part of decoding, which may fail.  Its state is the number of links that
may still be followed. -/
abbrev Decoding := StateT Nat Option

def Decoding.follow : Decoding Unit := fun links =>
  match links with
  | 0 => none
  | links + 1 => some ((), links)

abbrev Decoder (δ α : Type) := Nat → δ → Decoding α

namespace Decoder

variable {δ α : Type} [Document δ]

def run (decoder : Decoder δ α) (levels links : Nat) (value : δ) : Option α :=
  (decoder levels value).run' links

def target (value : δ) : Decoding δ :=
  match Document.link? value with
  | none => return value
  | some target => do
      Decoding.follow
      return target

def text : Decoder δ String := fun _ value => do
  Document.text? (← target value)

def flag : Decoder δ Bool := fun _ value => do
  Document.flag? (← target value)

def character : Decoder δ Char := fun depth value => do
  match (← text depth value).toList with
  | [c] => return c
  | _ => failure

def integer : Decoder δ Int64 := fun _ value => do
  let number ← Document.integer? (← target value)
  if -9223372036854775808 ≤ number ∧ number ≤ 9223372036854775807 then
    return Int64.ofInt number
  else failure

def optional (item : Decoder δ α) : Decoder δ (Option α) := fun depth value => do
  let value ← target value
  if ← Document.isAbsent? value then return none else return some (← item depth value)

def list (item : Decoder δ α) : Decoder δ (List α)
  | 0, _ => failure
  | depth + 1, value => do
      let items ← Document.items? (← target value)
      items.mapM (item depth)

def fields (names : List String) (value : δ) : Decoding (List (Option δ)) := do
  match ← Document.record? (← target value) with
  | .named fields =>
      let fields ← fields.mapM fun field => return (← text 0 field.1, field.2)
      selectFields? names fields
  | .listed values => alignFields? names values

/-- The fields of a record, given to a function together with the levels that
are left. -/
def record (names : List String) (read : Nat → List (Option δ) → Decoding α) : Decoder δ α
  | 0, _ => failure
  | depth + 1, value => do read depth (← fields names value)

def required (item : Decoder δ α) (depth : Nat) : Option δ → Decoding α
  | none => failure
  | some value => item depth value

def defaulted (fallback : α) (item : Decoder δ α) (depth : Nat) : Option δ → Decoding α
  | none => return fallback
  | some value => item depth value

def variant (value : δ) : Decoding (String × Option δ) := do
  Document.variant? (← target value)

def unitVariant (table : List (String × α)) : Decoder δ α := fun depth value => do
  match ← variant value with
  | (name, none) => table.lookup name
  | (name, some payload) =>
      if Document.payloadLevels δ ≤ depth ∧ Document.isUnit payload then table.lookup name
      else failure

end Decoder

end CompositeKey
