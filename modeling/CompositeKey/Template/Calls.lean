import CompositeKey.Template.Checked

/-!
# Calling a lexer

A lexer takes one call after another, in any order: for the next lexeme, or for the
rest of a property body.  A call that is refused leaves the lexer as it was.
-/

set_option autoImplicit false

namespace CompositeKey

inductive LexerCall where
  | next
  | propertyBody
deriving DecidableEq

inductive LexerAnswer where
  | lexeme (lexeme : Lexeme)
  | ended
  | body (body : PropertyBody)
  | refused (failure : TokenizeError)
deriving DecidableEq

/-- The text that a call has taken.  A body is taken with its closing brace. -/
def LexerAnswer.taken : LexerAnswer → List Char
  | .lexeme found => found.text
  | .ended => []
  | .body found => found.text ++ ['}']
  | .refused _ => []

namespace Lexer

def answerBody (lexer : Lexer) : Except TokenizeError (PropertyBody × Lexer) → LexerAnswer × Lexer
  | .ok (body, after) => (.body body, after)
  | .error failure => (.refused failure, lexer)

def call (lexer : Lexer) : LexerCall → LexerAnswer × Lexer
  | .next =>
      match lexer.next with
      | (some lexeme, after) => (.lexeme lexeme, after)
      | (none, after) => (.ended, after)
  | .propertyBody => lexer.answerBody lexer.propertyBody

/-- A call with ranges that have to fit.  Taking a lexeme makes no range. -/
def call? (lexer : Lexer) : LexerCall → Option (LexerAnswer × Lexer)
  | .next => some (lexer.call .next)
  | .propertyBody => lexer.propertyBody?.map lexer.answerBody

def run (lexer : Lexer) : List LexerCall → List LexerAnswer × Lexer
  | [] => ([], lexer)
  | call :: rest =>
      let (answer, after) := lexer.call call
      let (answers, last) := after.run rest
      (answer :: answers, last)

def run? (lexer : Lexer) : List LexerCall → Option (List LexerAnswer × Lexer)
  | [] => some ([], lexer)
  | call :: rest => do
      let (answer, after) ← lexer.call? call
      let (answers, last) ← after.run? rest
      return (answer :: answers, last)

end Lexer

end CompositeKey
