import Mathlib.Data.List.TakeWhile

/-!
# Runs of characters

A run of characters of one kind ends where the text does not go on with that kind.
-/

set_option autoImplicit false

namespace CompositeKey

/-- A text does not go on with a character of a kind. -/
def RunEnds (kind : Char → Bool) (rest : List Char) : Prop := ∀ c ∈ rest.head?, kind c = false

section Runs

variable {kind : Char → Bool} {text rest : List Char}

theorem runEnds_nil : RunEnds kind [] := by
  intro c found
  cases found

theorem runEnds_cons {c : Char} (other : kind c = false) : RunEnds kind (c :: rest) := by
  intro d found
  cases found
  exact other

theorem RunEnds.append (first : RunEnds kind text) (second : RunEnds kind rest) :
    RunEnds kind (text ++ rest) := by
  cases text with
  | nil => exact second
  | cons c others => exact runEnds_cons (first c rfl)

theorem RunEnds.of_append (ends : RunEnds kind (text ++ rest)) : RunEnds kind text := by
  cases text with
  | nil => exact runEnds_nil
  | cons c others => exact runEnds_cons (ends c rfl)

theorem runEnds_dropWhile (text : List Char) : RunEnds kind (text.dropWhile kind) := by
  intro c found
  have stops := List.head?_dropWhile_not kind text
  rw [Option.mem_def.mp found] at stops
  simpa using stops

theorem takeWhile_of_runEnds (run : ∀ c ∈ text, kind c = true) (ends : RunEnds kind rest) :
    (text ++ rest).takeWhile kind = text := by
  rw [List.takeWhile_append_of_pos run]
  cases rest with
  | nil => simp
  | cons c others => simp [ends c rfl]

theorem dropWhile_of_runEnds (run : ∀ c ∈ text, kind c = true) (ends : RunEnds kind rest) :
    (text ++ rest).dropWhile kind = rest := by
  have whole := List.takeWhile_append_dropWhile (p := kind) (l := text ++ rest)
  rw [takeWhile_of_runEnds run ends] at whole
  exact List.append_cancel_left whole

end Runs

end CompositeKey
