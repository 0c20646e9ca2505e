import CompositeKey.Template.PropertyText

/-!
# From a template to its tokens

One pass from left to right.  The primary separator, when one is configured,
turns its single occurrence outside property bodies into the primary delimiter.
-/

set_option autoImplicit false

namespace CompositeKey

namespace Lexer

/-- The token for a single character outside property bodies; `seen` tells
whether the primary separator has come before. -/
def delimiterToken (separator : Option Char) (seen : Bool) (c : Char) (range : TextRange) :
    Except TokenizeError Token :=
  if separator = some c then
    if seen then .error (.duplicatePrimarySeparator c range)
    else .ok ⟨.primaryDelimiter c, range⟩
  else .ok ⟨.delimiter c, range⟩

def token (lexer : Lexer) (separator : Option Char) (seen : Bool) (lexeme : Lexeme) :
    Except TokenizeError (Token × Lexer) :=
  match lexeme.kind with
  | .word text => .ok (⟨.constant (String.ofList text), lexeme.range⟩, lexer)
  | .openBrace =>
      match lexer.propertyBody with
      | .error failure => .error failure
      | .ok (body, after) => body.token.map fun value => (⟨value, body.range⟩, after)
  | .closeBrace => (delimiterToken separator seen '}' lexeme.range).map fun token => (token, lexer)
  | .symbol c => (delimiterToken separator seen c lexeme.range).map fun token => (token, lexer)

theorem length_le_of_token {lexer after : Lexer} {separator : Option Char} {seen : Bool}
    {lexeme : Lexeme} {token : Token}
    (read : lexer.token separator seen lexeme = .ok (token, after)) :
    after.rest.length ≤ lexer.rest.length := by
  unfold Lexer.token at read
  split at read
  · simp only [Except.ok.injEq, Prod.mk.injEq] at read
    exact Nat.le_of_eq (congrArg (fun reached => reached.rest.length) read.2.symm)
  · split at read
    · contradiction
    · rename_i body rest found
      cases value : body.token with
      | error failure => simp [value, Except.map] at read
      | ok value' =>
          simp only [value, Except.map, Except.ok.injEq, Prod.mk.injEq] at read
          rw [← read.2]
          exact Nat.le_of_lt (length_lt_of_propertyBody found)
  all_goals
    unfold Except.map at read
    split at read
    · contradiction
    · simp only [Except.ok.injEq, Prod.mk.injEq] at read
      exact Nat.le_of_eq (congrArg (fun reached => reached.rest.length) read.2.symm)

def tokens (lexer : Lexer) (separator : Option Char) (seen : Bool) :
    Except TokenizeError (List Token) :=
  match read : lexer.next with
  | (none, _) => .ok []
  | (some lexeme, after) =>
      match step : after.token separator seen lexeme with
      | .error failure => .error failure
      | .ok (token, rest) =>
          have _shorter := Nat.lt_of_le_of_lt (length_le_of_token step) (length_lt_of_next read)
          (rest.tokens separator (seen || token.value.isPrimaryDelimiter)).map (token :: ·)
termination_by lexer.rest.length

end Lexer

/-- The tokens of a template.  `separator` is the character between partition
and sort key; it has to lex as a symbol of its own. -/
def tokenize (template : String) (separator : Option Char) : Except TokenizeError (List Token) :=
  if template.isEmpty then .error .emptyTemplate
  else
    match separator with
    | none => (Lexer.ofText template.toList).tokens none false
    | some c =>
        if lexesAsSymbol c then (Lexer.ofText template.toList).tokens (some c) false
        else .error (.invalidPrimarySeparator c)

end CompositeKey
