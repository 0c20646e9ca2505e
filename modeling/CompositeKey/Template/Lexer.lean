import CompositeKey.Template.Lexeme
import CompositeKey.Template.TokenizeError

/-!
# Reading a template from left to right

A `Lexer` stands somewhere in a template.  It holds the bytes of the piece it
read last, from `start` up to `stop`, and the text after that piece.  `next`
takes one lexeme, `propertyBody` takes everything up to a closing brace.
-/

set_option autoImplicit false

namespace CompositeKey

structure Lexer where
  start : Nat
  stop : Nat
  rest : List Char
deriving DecidableEq

structure PropertyBody where
  text : List Char
  offset : Nat
  range : TextRange
deriving DecidableEq

namespace Lexer

def ofText (text : List Char) : Lexer := ⟨0, 0, text⟩

/-- Takes one lexeme.  At the end of the text there is none, and the piece read
last becomes empty. -/
def next (lexer : Lexer) : Option Lexeme × Lexer :=
  match lexer.rest with
  | [] => (none, ⟨lexer.stop, lexer.stop, []⟩)
  | c :: rest =>
      let (kind, after) := LexemeKind.read c rest
      (some ⟨kind, lexer.stop⟩, ⟨lexer.stop, lexer.stop + byteLength kind.text, after⟩)

theorem next_of_nil {lexer : Lexer} (ended : lexer.rest = []) :
    lexer.next = (none, ⟨lexer.stop, lexer.stop, []⟩) := by
  simp [next, ended]

theorem text_append_of_next {lexer after : Lexer} {lexeme : Lexeme}
    (read : lexer.next = (some lexeme, after)) :
    lexer.rest = lexeme.text ++ after.rest := by
  cases remaining : lexer.rest with
  | nil => simp [next, remaining] at read
  | cons c rest =>
      simp only [next, remaining, Prod.mk.injEq, Option.some.injEq] at read
      obtain ⟨rfl, rfl⟩ := read
      exact (LexemeKind.text_append_read c rest).symm

theorem length_lt_of_next {lexer after : Lexer} {lexeme : Lexeme}
    (read : lexer.next = (some lexeme, after)) :
    after.rest.length < lexer.rest.length := by
  have split := text_append_of_next read
  have nonempty : lexeme.text ≠ [] := by
    cases remaining : lexer.rest with
    | nil => simp [next, remaining] at read
    | cons c rest =>
        simp only [next, remaining, Prod.mk.injEq, Option.some.injEq] at read
        obtain ⟨rfl, rfl⟩ := read
        exact LexemeKind.text_ne_nil_of_read c rest
  have positive := List.length_pos_iff.mpr nonempty
  rw [split, List.length_append]
  omega

/-- Takes the text up to the first closing brace, and that brace with it.  An
opening brace before it, or no brace at all, is an error. -/
def propertyBody (lexer : Lexer) : Except TokenizeError (PropertyBody × Lexer) :=
  let text := lexer.rest.takeWhile fun c => !isBrace c
  let length := byteLength text
  match lexer.rest.dropWhile fun c => !isBrace c with
  | [] => .error (.unterminatedProperty lexer.start)
  | brace :: after =>
      if brace = '}' then
        .ok (⟨text, lexer.stop, TextRange.ofLength lexer.start (length + 2)⟩,
          ⟨lexer.start, lexer.stop + length + 1, after⟩)
      else .error (.nestedPropertyOpen (TextRange.ofLength (lexer.stop + length) 1))

theorem text_append_of_propertyBody {lexer after : Lexer} {body : PropertyBody}
    (read : lexer.propertyBody = .ok (body, after)) :
    lexer.rest = body.text ++ '}' :: after.rest := by
  simp only [propertyBody] at read
  split at read
  · contradiction
  · rename_i brace rest found
    split at read
    · rename_i closes
      simp only [Except.ok.injEq, Prod.mk.injEq] at read
      obtain ⟨rfl, rfl⟩ := read
      subst closes
      have whole := List.takeWhile_append_dropWhile (p := fun c => !isBrace c) (l := lexer.rest)
      rw [found] at whole
      exact whole.symm
    · contradiction

theorem length_lt_of_propertyBody {lexer after : Lexer} {body : PropertyBody}
    (read : lexer.propertyBody = .ok (body, after)) :
    after.rest.length < lexer.rest.length := by
  rw [text_append_of_propertyBody read]
  simp only [List.length_append, List.length_cons]
  omega

def drain (lexer : Lexer) : List Lexeme × Lexer :=
  match read : lexer.next with
  | (none, after) => ([], after)
  | (some lexeme, after) =>
      have _shorter := length_lt_of_next read
      (lexeme :: after.drain.1, after.drain.2)
termination_by lexer.rest.length

end Lexer

def lex (text : List Char) : List Lexeme := (Lexer.ofText text).drain.1

def lexesAsSymbol (c : Char) : Bool := lex [c] == [⟨.symbol c, 0⟩]

end CompositeKey
