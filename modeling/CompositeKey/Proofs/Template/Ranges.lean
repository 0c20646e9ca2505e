import CompositeKey.Proofs.Template.Grammar
import CompositeKey.Proofs.Text.Slice

/-!
# Ranges of tokens

The ranges of the tokens of a template cut it into the texts that the tokens are
written as, without a gap and without an overlap.
-/

set_option autoImplicit false

namespace CompositeKey

def Contiguous (start : Nat) : List TextRange → Nat → Prop
  | [], stop => start = stop
  | range :: rest, stop => range.start = start ∧ Contiguous range.stop rest stop

/-- Tokens that cut a text into pieces, each of which is the written form of its
token. -/
structure Tiles (tokens : List Token) (text : List Char) : Prop where
  contiguous : Contiguous 0 (tokens.map Token.range) (byteLength text)
  nonempty : ∀ token ∈ tokens, token.range.start < token.range.stop
  isWithin : ∀ token ∈ tokens, token.range.IsWithin text
  slices : ∀ token ∈ tokens, slice? text token.range = some token.value.written

namespace Reading

variable {separator : Option Char} {seen : Bool} {offset : Nat} {text : List Char}
  {tokens : List Token} {token : Token}

theorem contiguous (reading : Reading separator seen offset text tokens)
    (small : offset + byteLength text ≤ maxOffset) :
    Contiguous offset (tokens.map Token.range) (offset + byteLength text) := by
  induction reading with
  | done => exact rfl
  | @token seen offset value rest others fits behind ih =>
      rw [byteLength_append, ← Nat.add_assoc] at small ⊢
      have begins : clampOffset offset = offset := clampOffset_of_le (by omega)
      have ends : clampOffset (offset + byteLength value.written) =
          offset + byteLength value.written := clampOffset_of_le (by omega)
      refine ⟨begins, ?_⟩
      simp only [TextRange.ofLength, ends]
      exact ih small

theorem exists_position (reading : Reading separator seen offset text tokens)
    (member : token ∈ tokens) :
    ∃ before after, text = before ++ token.value.written ++ after ∧
      token.range = TextRange.ofLength (offset + byteLength before)
        (byteLength token.value.written) := by
  induction reading with
  | done => contradiction
  | @token seen offset value rest others fits behind ih =>
      rcases List.mem_cons.mp member with rfl | later
      · exact ⟨[], rest, rfl, rfl⟩
      · obtain ⟨before, after, rfl, range⟩ := ih later
        refine ⟨value.written ++ before, after, by simp only [List.append_assoc], ?_⟩
        rw [range, byteLength_append, Nat.add_assoc]

theorem slice?_range (reading : Reading separator seen 0 text tokens)
    (small : byteLength text ≤ maxOffset) (member : token ∈ tokens) :
    slice? text token.range = some token.value.written := by
  obtain ⟨before, after, rfl, range⟩ := reading.exists_position member
  rw [range, Nat.zero_add]
  exact slice?_ofLength small

theorem start_lt_stop (reading : Reading separator seen 0 text tokens)
    (small : byteLength text ≤ maxOffset) (member : token ∈ tokens) :
    token.range.start < token.range.stop := by
  have slice := reading.slice?_range small member
  obtain ⟨before, after, _, start, stop⟩ := slice?_eq_some_iff.mp slice
  have written : token.value.written ≠ [] :=
    TemplateToken.written_ne_nil (reading.wellFormed token member)
  have positive : byteLength token.value.written ≠ 0 := fun zero =>
    written (byteLength_eq_zero_iff.mp zero)
  rw [byteLength_append] at stop
  omega

end Reading

/-- The tokens of a template lose nothing of it and take nothing twice: their
ranges run from its first byte to its last, and what stands at each of them is
the token. -/
theorem tokenize_tiles_template {template : String} {separator : Option Char}
    {tokens : List Token} (small : byteLength template.toList ≤ maxOffset)
    (run : tokenize template separator = .ok tokens) : Tiles tokens template.toList := by
  obtain ⟨_, _, reading⟩ := tokenize_eq_ok_iff.mp run
  have contiguous := reading.contiguous (by omega)
  rw [Nat.zero_add] at contiguous
  refine ⟨contiguous, ?_, ?_, ?_⟩
  · intro token member
    exact reading.start_lt_stop small member
  · intro token member
    exact isWithin_of_slice? (reading.slice?_range small member)
  · intro token member
    exact reading.slice?_range small member

theorem tokens_tile_arrow_template :
    ∃ tokens, tokenize "é{A:N}→{Ts...→}" (some '→') = .ok tokens ∧
      tokens.map (fun token => (token.range.start, token.range.stop)) =
        [(0, 2), (2, 7), (7, 10), (10, 20)] ∧
      Tiles tokens "é{A:N}→{Ts...→}".toList := by
  have success : (tokenize "é{A:N}→{Ts...→}" (some '→')).map
      (List.map fun token => (token.range.start, token.range.stop)) =
        .ok [(0, 2), (2, 7), (7, 10), (10, 20)] := by
    decide +kernel
  obtain ⟨tokens, run, ranges⟩ := map_eq_ok_iff.mp success
  exact ⟨tokens, run, ranges, tokenize_tiles_template (by decide +kernel) run⟩

end CompositeKey
