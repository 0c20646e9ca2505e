/-!
# Lengths in UTF-8 bytes

A text is handled as a list of characters; offsets into it count the bytes of
its UTF-8 form.
-/

set_option autoImplicit false

namespace CompositeKey

def byteLength : List Char → Nat
  | [] => 0
  | c :: rest => c.utf8Size + byteLength rest

@[simp]
theorem byteLength_nil : byteLength [] = 0 := rfl

@[simp]
theorem byteLength_cons (c : Char) (rest : List Char) :
    byteLength (c :: rest) = c.utf8Size + byteLength rest := rfl

@[simp]
theorem byteLength_append (first second : List Char) :
    byteLength (first ++ second) = byteLength first + byteLength second := by
  induction first with
  | nil => simp
  | cons c rest ih => simp [ih, Nat.add_assoc]

theorem length_le_byteLength (text : List Char) : text.length ≤ byteLength text := by
  induction text with
  | nil => simp
  | cons c rest ih =>
      have positive : 0 < c.utf8Size := c.utf8Size_pos
      simp only [List.length_cons, byteLength_cons]
      omega

end CompositeKey
