import CompositeKey.Template.Tokenize

/-!
# Reading a template with ranges that have to fit

`tokenize` moves every end of a range past the largest offset down to it.  Here a
range is made by `TextRange.ofLength?` in each place, and a step that makes a range
which does not fit has no answer.  Where there is an answer it is the one that
`tokenize` gives.
-/

set_option autoImplicit false

namespace CompositeKey

theorem TextRange.eq_of_ofLength? {start length : Nat} {range : TextRange}
    (made : TextRange.ofLength? start length = some range) :
    range = TextRange.ofLength start length :=
  (TextRange.ofLength?_eq_some_iff.mp made).2

def Lexeme.range? (lexeme : Lexeme) : Option TextRange :=
  TextRange.ofLength? lexeme.offset (byteLength lexeme.text)

/-- Takes a property body as `Lexer.propertyBody` does.  A property that is never
closed is reported at a single offset, which always fits. -/
def Lexer.propertyBody? (lexer : Lexer) : Option (Except TokenizeError (PropertyBody × Lexer)) :=
  let text := lexer.rest.takeWhile fun c => !isBrace c
  let length := byteLength text
  match lexer.rest.dropWhile fun c => !isBrace c with
  | [] => some (.error (.unterminatedProperty lexer.start))
  | brace :: after =>
      if brace = '}' then
        (TextRange.ofLength? lexer.start (length + 2)).map fun range =>
          .ok (⟨text, lexer.stop, range⟩, ⟨lexer.start, lexer.stop + length + 1, after⟩)
      else
        (TextRange.ofLength? (lexer.stop + length) 1).map fun range =>
          .error (.nestedPropertyOpen range)

theorem Lexer.eq_of_propertyBody? {lexer : Lexer}
    {answer : Except TokenizeError (PropertyBody × Lexer)}
    (read : lexer.propertyBody? = some answer) : answer = lexer.propertyBody := by
  cases found : lexer.rest.dropWhile fun c => !isBrace c with
  | nil =>
      simp only [propertyBody?, found, Option.some.injEq] at read
      simp only [propertyBody, found, read]
  | cons brace after =>
      simp only [propertyBody?, found] at read
      simp only [propertyBody, found]
      split at read
      · rename_i closes
        obtain ⟨range, made, rfl⟩ := Option.map_eq_some_iff.mp read
        rw [if_pos closes, TextRange.eq_of_ofLength? made]
      · rename_i opens
        obtain ⟨range, made, rfl⟩ := Option.map_eq_some_iff.mp read
        rw [if_neg opens, TextRange.eq_of_ofLength? made]

namespace PropertyBody

/-- Only text that stands between the separator and the closing brace, and that is
no format, is reported at a range of its own. -/
def repeatingToken? (body : PropertyBody) (nameText after : List Char) :
    Option (Except TokenizeError TemplateToken) :=
  match body.name nameText, after with
  | .ok name, separator :: c :: trailing =>
      if c = ':' then some (body.repeatingToken nameText after)
      else
        let start := body.offset + byteLength nameText + 3 + separator.utf8Size
        (TextRange.ofLength? start (byteLength (c :: trailing))).map fun range =>
          .error (.trailingRepeatingText name range)
  | _, _ => some (body.repeatingToken nameText after)

def token? (body : PropertyBody) : Option (Except TokenizeError TemplateToken) :=
  match splitAtMarker body.text with
  | some (nameText, after) =>
      if nameText.contains ':' then some body.scalarToken else body.repeatingToken? nameText after
  | none => some body.scalarToken

theorem repeatingToken_of_trailing {body : PropertyBody} {nameText trailing : List Char}
    {name : String} {separator c : Char} (named : body.name nameText = .ok name)
    (other : c ≠ ':') :
    body.repeatingToken nameText (separator :: c :: trailing) =
      .error (.trailingRepeatingText name (TextRange.ofLength
        (body.offset + byteLength nameText + 3 + separator.utf8Size)
        (byteLength (c :: trailing)))) := by
  rw [repeatingToken, named]
  simp only [bind, Except.bind]
  split
  · contradiction
  · rename_i same
    simp at same
  · rename_i same
    simp only [List.cons.injEq] at same
    exact absurd same.2.1 other
  · rename_i same
    simp only [List.cons.injEq] at same
    obtain ⟨rfl, rfl⟩ := same
    rfl

theorem eq_of_repeatingToken? {body : PropertyBody} {nameText after : List Char}
    {answer : Except TokenizeError TemplateToken}
    (read : body.repeatingToken? nameText after = some answer) :
    answer = body.repeatingToken nameText after := by
  unfold repeatingToken? at read
  split at read
  · rename_i name separator c trailing named
    split at read
    · exact (Option.some.inj read).symm
    · rename_i other
      obtain ⟨range, made, rfl⟩ := Option.map_eq_some_iff.mp read
      rw [repeatingToken_of_trailing named other, TextRange.eq_of_ofLength? made]
  · exact (Option.some.inj read).symm

theorem eq_of_token? {body : PropertyBody} {answer : Except TokenizeError TemplateToken}
    (read : body.token? = some answer) : answer = body.token := by
  cases found : splitAtMarker body.text with
  | none =>
      simp only [token?, found, Option.some.injEq] at read
      simp only [token, found, read]
  | some parts =>
      simp only [token?, found] at read
      simp only [token, found]
      split at read
      · rename_i colon
        rw [if_pos colon, Option.some.inj read]
      · rename_i colon
        rw [if_neg colon]
        exact eq_of_repeatingToken? read

end PropertyBody

namespace Lexer

/-- The token that begins with a lexeme.  Every lexeme but an opening brace is a
token, or is refused, at its own range. -/
def token? (lexer : Lexer) (separator : Option Char) (seen : Bool) (lexeme : Lexeme) :
    Option (Except TokenizeError (Token × Lexer)) :=
  match lexeme.kind with
  | .openBrace =>
      match lexer.propertyBody? with
      | none => none
      | some (.error failure) => some (.error failure)
      | some (.ok (body, after)) =>
          body.token?.map fun read => read.map fun value => (⟨value, body.range⟩, after)
  | _ => lexeme.range?.map fun _ => lexer.token separator seen lexeme

theorem eq_of_token? {lexer : Lexer} {separator : Option Char} {seen : Bool} {lexeme : Lexeme}
    {answer : Except TokenizeError (Token × Lexer)}
    (read : lexer.token? separator seen lexeme = some answer) :
    answer = lexer.token separator seen lexeme := by
  unfold token? at read
  split at read
  · rename_i opens
    split at read
    · contradiction
    · rename_i failure found
      cases read
      simp only [token, opens, ← eq_of_propertyBody? found]
    · rename_i body after found
      obtain ⟨value, taken, rfl⟩ := Option.map_eq_some_iff.mp read
      simp only [token, opens, ← eq_of_propertyBody? found, PropertyBody.eq_of_token? taken]
  · obtain ⟨range, _, rfl⟩ := Option.map_eq_some_iff.mp read
    rfl

def tokens? (lexer : Lexer) (separator : Option Char) (seen : Bool) :
    Option (Except TokenizeError (List Token)) :=
  match read : lexer.next with
  | (none, _) => some (.ok [])
  | (some lexeme, after) =>
      match step : after.token? separator seen lexeme with
      | none => none
      | some (.error failure) => some (.error failure)
      | some (.ok (token, rest)) =>
          have _shorter := Nat.lt_of_le_of_lt
            (length_le_of_token (eq_of_token? step).symm) (length_lt_of_next read)
          (rest.tokens? separator (seen || token.value.isPrimaryDelimiter)).map fun others =>
            others.map (token :: ·)
termination_by lexer.rest.length

end Lexer

/-- The tokens of a template, as `tokenize` gives them; nothing when a range that is
made on the way does not fit. -/
def tokenize? (template : String) (separator : Option Char) :
    Option (Except TokenizeError (List Token)) :=
  if template.isEmpty then some (.error .emptyTemplate)
  else
    match separator with
    | none => (Lexer.ofText template.toList).tokens? none false
    | some c =>
        if lexesAsSymbol c then (Lexer.ofText template.toList).tokens? (some c) false
        else some (.error (.invalidPrimarySeparator c))

end CompositeKey
