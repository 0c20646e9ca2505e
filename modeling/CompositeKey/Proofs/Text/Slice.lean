import CompositeKey.Text.Bytes
import CompositeKey.Text.Range
import Mathlib.Data.List.Infix

/-!
# Slices of a text

What stands in a text at a range of bytes.  Only a range whose two ends lie
between characters has a slice.
-/

set_option autoImplicit false

namespace CompositeKey

/-- Splits a text at a byte offset.  There is no split inside a character and none
behind the end. -/
def splitAtByte? : List Char → Nat → Option (List Char × List Char)
  | text, 0 => some ([], text)
  | [], _ + 1 => none
  | c :: rest, offset + 1 =>
      if c.utf8Size ≤ offset + 1 then
        (splitAtByte? rest (offset + 1 - c.utf8Size)).map fun parts => (c :: parts.1, parts.2)
      else none

def IsBoundary (text : List Char) (offset : Nat) : Prop := (splitAtByte? text offset).isSome

instance (text : List Char) (offset : Nat) : Decidable (IsBoundary text offset) :=
  inferInstanceAs (Decidable ((splitAtByte? text offset).isSome = true))

def slice? (text : List Char) (range : TextRange) : Option (List Char) := do
  let (front, _) ← splitAtByte? text range.stop
  let (_, piece) ← splitAtByte? front range.start
  return piece

structure TextRange.IsWithin (range : TextRange) (text : List Char) : Prop where
  ordered : range.start ≤ range.stop
  inside : range.stop ≤ byteLength text
  start_isBoundary : IsBoundary text range.start
  stop_isBoundary : IsBoundary text range.stop

variable {text before piece after : List Char} {offset : Nat} {range : TextRange}

theorem byteLength_eq_zero_iff : byteLength text = 0 ↔ text = [] := by
  constructor
  · intro zero
    have short := length_le_byteLength text
    rw [zero, Nat.le_zero] at short
    exact List.length_eq_zero_iff.mp short
  · rintro rfl
    rfl

theorem splitAtByte?_zero_eq_some_iff :
    splitAtByte? text 0 = some (before, after) ↔
      text = before ++ after ∧ byteLength before = 0 := by
  rw [splitAtByte?, byteLength_eq_zero_iff, Option.some.injEq, Prod.mk.injEq]
  constructor
  · rintro ⟨rfl, rfl⟩
    exact ⟨rfl, rfl⟩
  · rintro ⟨whole, rfl⟩
    exact ⟨rfl, whole⟩

theorem splitAtByte?_eq_some_iff :
    splitAtByte? text offset = some (before, after) ↔
      text = before ++ after ∧ byteLength before = offset := by
  -- A character is taken whole, so the offset shrinks by its width and not by one.
  induction text generalizing offset before with
  | nil =>
      cases offset with
      | zero => exact splitAtByte?_zero_eq_some_iff
      | succ offset =>
          simp only [splitAtByte?, reduceCtorEq, false_iff, not_and]
          intro whole
          simp [(List.append_eq_nil_iff.mp whole.symm).1]
  | cons c rest ih =>
      cases offset with
      | zero => exact splitAtByte?_zero_eq_some_iff
      | succ offset =>
          rw [splitAtByte?]
          constructor
          · intro split
            split at split
            · rename_i fits
              obtain ⟨⟨first, last⟩, found, same⟩ := Option.map_eq_some_iff.mp split
              obtain ⟨rfl, rfl⟩ := Prod.mk.inj same
              obtain ⟨rfl, length⟩ := ih.mp found
              refine ⟨rfl, ?_⟩
              rw [byteLength_cons, length]
              omega
            · contradiction
          · rintro ⟨whole, length⟩
            cases before with
            | nil => simp at length
            | cons d others =>
                obtain ⟨rfl, split⟩ := List.cons.inj whole
                rw [byteLength_cons] at length
                have fits : c.utf8Size ≤ offset + 1 := by omega
                have found := ih.mpr ⟨split, (by omega : byteLength others =
                  offset + 1 - c.utf8Size)⟩
                rw [if_pos fits, found]
                rfl

theorem eq_of_append_eq_append {front behind : List Char}
    (same : before ++ after = front ++ behind) (lengths : byteLength before = byteLength front) :
    before = front ∧ after = behind := by
  have first : splitAtByte? (before ++ after) (byteLength before) = some (before, after) :=
    splitAtByte?_eq_some_iff.mpr ⟨rfl, rfl⟩
  have second : splitAtByte? (before ++ after) (byteLength before) = some (front, behind) :=
    splitAtByte?_eq_some_iff.mpr ⟨same, lengths.symm⟩
  rw [first] at second
  exact Prod.mk.inj (Option.some.inj second)

theorem isBoundary_iff :
    IsBoundary text offset ↔
      ∃ before after, text = before ++ after ∧ byteLength before = offset := by
  simp only [IsBoundary, Option.isSome_iff_exists, Prod.exists, splitAtByte?_eq_some_iff]

theorem isBoundary_append (before after : List Char) :
    IsBoundary (before ++ after) (byteLength before) :=
  isBoundary_iff.mpr ⟨before, after, rfl, rfl⟩

theorem slice?_eq_some_iff :
    slice? text range = some piece ↔
      ∃ before after, text = before ++ piece ++ after ∧ byteLength before = range.start ∧
        byteLength (before ++ piece) = range.stop := by
  simp only [slice?, Option.bind_eq_bind, Option.bind_eq_some_iff, Option.pure_def,
    Option.some.injEq, Prod.exists, splitAtByte?_eq_some_iff]
  constructor
  · rintro ⟨front, behind, ⟨rfl, stop⟩, before, last, ⟨rfl, start⟩, rfl⟩
    exact ⟨before, behind, rfl, start, stop⟩
  · rintro ⟨before, behind, rfl, start, stop⟩
    exact ⟨before ++ piece, behind, ⟨rfl, stop⟩, before, piece, ⟨rfl, start⟩, rfl⟩

theorem isWithin_of_slice? (cut : slice? text range = some piece) : range.IsWithin text := by
  obtain ⟨before, after, rfl, start, stop⟩ := slice?_eq_some_iff.mp cut
  have first : IsBoundary (before ++ piece ++ after) range.start := by
    rw [← start, List.append_assoc]
    exact isBoundary_append before (piece ++ after)
  have last : IsBoundary (before ++ piece ++ after) range.stop := by
    rw [← stop]
    exact isBoundary_append (before ++ piece) after
  refine ⟨range.ordered, ?_, first, last⟩
  rw [← stop, byteLength_append (before ++ piece)]
  exact Nat.le_add_right _ _

theorem slice?_ofLength (small : byteLength (before ++ piece ++ after) ≤ maxOffset) :
    slice? (before ++ piece ++ after)
        (TextRange.ofLength (byteLength before) (byteLength piece)) = some piece := by
  rw [byteLength_append, byteLength_append] at small
  have start : clampOffset (byteLength before) = byteLength before :=
    clampOffset_of_le (by omega)
  have stop : clampOffset (byteLength before + byteLength piece) =
      byteLength before + byteLength piece := clampOffset_of_le (by omega)
  apply slice?_eq_some_iff.mpr
  refine ⟨before, after, rfl, start.symm, ?_⟩
  rw [byteLength_append]
  exact stop.symm

end CompositeKey
