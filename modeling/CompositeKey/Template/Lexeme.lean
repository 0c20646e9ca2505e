import CompositeKey.Text.Bytes
import CompositeKey.Text.LetterNumber
import CompositeKey.Text.Range

/-!
# Lexemes of a template

Outside property bodies a template is a sequence of braces, words (runs of
letters and numbers) and single symbols.
-/

set_option autoImplicit false

namespace CompositeKey

inductive CharClass where
  | openBrace
  | closeBrace
  | wordChar
  | symbol
deriving DecidableEq

/-- The class of a character; the braces come before the letters and numbers. -/
def CharClass.of (c : Char) : CharClass :=
  if c = '{' then .openBrace
  else if c = '}' then .closeBrace
  else if isLetterOrNumber c then .wordChar
  else .symbol

def isWordChar (c : Char) : Bool := CharClass.of c == .wordChar

def isBrace (c : Char) : Bool := c == '{' || c == '}'

inductive LexemeKind where
  | openBrace
  | closeBrace
  | word (text : List Char)
  | symbol (c : Char)
deriving DecidableEq

def LexemeKind.text : LexemeKind → List Char
  | .openBrace => ['{']
  | .closeBrace => ['}']
  | .word text => text
  | .symbol c => [c]

structure Lexeme where
  kind : LexemeKind
  offset : Nat
deriving DecidableEq

namespace Lexeme

def text (lexeme : Lexeme) : List Char := lexeme.kind.text

def range (lexeme : Lexeme) : TextRange :=
  TextRange.ofLength lexeme.offset (byteLength lexeme.text)

end Lexeme

def LexemeKind.read (c : Char) (rest : List Char) : LexemeKind × List Char :=
  match CharClass.of c with
  | .openBrace => (.openBrace, rest)
  | .closeBrace => (.closeBrace, rest)
  | .wordChar => (.word (c :: rest.takeWhile isWordChar), rest.dropWhile isWordChar)
  | .symbol => (.symbol c, rest)

@[simp]
theorem CharClass.of_open : CharClass.of '{' = .openBrace := rfl

@[simp]
theorem CharClass.of_close : CharClass.of '}' = .closeBrace := rfl

theorem CharClass.eq_of_openBrace {c : Char} (found : CharClass.of c = .openBrace) : c = '{' := by
  by_cases opens : c = '{'
  · exact opens
  · simp only [CharClass.of, opens, if_false] at found
    split at found
    · contradiction
    · split at found <;> contradiction

theorem CharClass.eq_of_closeBrace {c : Char} (found : CharClass.of c = .closeBrace) : c = '}' := by
  by_cases closes : c = '}'
  · exact closes
  · simp only [CharClass.of, closes, if_false] at found
    split at found
    · contradiction
    · split at found <;> contradiction

theorem LexemeKind.text_append_read (c : Char) (rest : List Char) :
    (LexemeKind.read c rest).1.text ++ (LexemeKind.read c rest).2 = c :: rest := by
  cases found : CharClass.of c with
  | openBrace => simp [LexemeKind.read, LexemeKind.text, CharClass.eq_of_openBrace found]
  | closeBrace => simp [LexemeKind.read, LexemeKind.text, CharClass.eq_of_closeBrace found]
  | wordChar => simp [LexemeKind.read, found, LexemeKind.text, List.takeWhile_append_dropWhile]
  | symbol => simp [LexemeKind.read, found, LexemeKind.text]

theorem LexemeKind.text_ne_nil_of_read (c : Char) (rest : List Char) :
    (LexemeKind.read c rest).1.text ≠ [] := by
  cases found : CharClass.of c <;> simp [LexemeKind.read, found, LexemeKind.text]

end CompositeKey
