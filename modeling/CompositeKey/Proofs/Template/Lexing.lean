import CompositeKey.Proofs.Template.PropertyGrammar
import CompositeKey.Proofs.Text.Span
import CompositeKey.Template.Tokenize

/-!
# Steps of the lexer

Which characters are symbols and word characters, what a property body takes
from the text, and how a run of the tokenizer falls into single steps.
-/

set_option autoImplicit false

namespace CompositeKey

theorem isLetterOrNumber_openBrace : isLetterOrNumber '{' = false := by decide +kernel

theorem isLetterOrNumber_closeBrace : isLetterOrNumber '}' = false := by decide +kernel

theorem isWordChar_eq (c : Char) : isWordChar c = isLetterOrNumber c := by
  by_cases opens : c = '{'
  · subst opens
    rw [isLetterOrNumber_openBrace]
    rfl
  · by_cases closes : c = '}'
    · subst closes
      rw [isLetterOrNumber_closeBrace]
      rfl
    · cases letter : isLetterOrNumber c <;>
        simp [isWordChar, CharClass.of, opens, closes, letter]

theorem CharClass.of_eq_wordChar_iff {c : Char} :
    CharClass.of c = .wordChar ↔ isLetterOrNumber c = true := by
  rw [← isWordChar_eq, isWordChar, beq_iff_eq]

theorem CharClass.of_eq_symbol_iff {c : Char} :
    CharClass.of c = .symbol ↔ c ≠ '{' ∧ c ≠ '}' ∧ isLetterOrNumber c = false := by
  by_cases opens : c = '{'
  · simp [opens]
  · by_cases closes : c = '}'
    · simp [closes]
    · cases letter : isLetterOrNumber c <;> simp [CharClass.of, opens, closes, letter]

namespace Lexer

theorem next_of_cons {lexer : Lexer} {c : Char} {rest : List Char}
    (remaining : lexer.rest = c :: rest) :
    lexer.next = (some ⟨(LexemeKind.read c rest).1, lexer.stop⟩,
      ⟨lexer.stop, lexer.stop + byteLength (LexemeKind.read c rest).1.text,
        (LexemeKind.read c rest).2⟩) := by
  simp only [next, remaining]

theorem drain_of_nil {lexer : Lexer} (ended : lexer.rest = []) :
    lexer.drain = ([], ⟨lexer.stop, lexer.stop, []⟩) := by
  rw [drain]
  split
  · rename_i after read
    rw [next_of_nil ended] at read
    cases read
    rfl
  · rename_i read
    rw [next_of_nil ended] at read
    cases read

theorem drain_of_next {lexer after : Lexer} {lexeme : Lexeme}
    (read : lexer.next = (some lexeme, after)) :
    lexer.drain = (lexeme :: after.drain.1, after.drain.2) := by
  rw [drain]
  split
  · rename_i ended
    rw [read] at ended
    cases ended
  · rename_i again
    rw [read] at again
    cases again
    rfl

end Lexer

theorem lex_singleton (c : Char) : lex [c] = [⟨(LexemeKind.read c []).1, 0⟩] := by
  have behind : (LexemeKind.read c []).2 = [] := by
    cases found : CharClass.of c <;> simp [LexemeKind.read, found]
  have read : (Lexer.ofText [c]).next = _ := rfl
  rw [lex, Lexer.drain_of_next read, Lexer.drain_of_nil behind]
  rfl

theorem lexesAsSymbol_iff {c : Char} : lexesAsSymbol c = true ↔ CharClass.of c = .symbol := by
  rw [lexesAsSymbol, lex_singleton]
  cases found : CharClass.of c <;> simp [LexemeKind.read, found]

abbrev WordEnds (rest : List Char) : Prop := RunEnds isLetterOrNumber rest

theorem wordEnds_dropWhile (text : List Char) : WordEnds (text.dropWhile isWordChar) := by
  rw [funext isWordChar_eq]
  exact runEnds_dropWhile text

theorem takeWhile_of_wordEnds {text rest : List Char}
    (letters : ∀ c ∈ text, isLetterOrNumber c = true) (ends : WordEnds rest) :
    (text ++ rest).takeWhile isWordChar = text := by
  rw [funext isWordChar_eq]
  exact takeWhile_of_runEnds letters ends

theorem dropWhile_of_wordEnds {text rest : List Char}
    (letters : ∀ c ∈ text, isLetterOrNumber c = true) (ends : WordEnds rest) :
    (text ++ rest).dropWhile isWordChar = rest := by
  rw [funext isWordChar_eq]
  exact dropWhile_of_runEnds letters ends

namespace Lexer

theorem span_of_brace {text : List Char} (brace : Char) (free : BraceFree text)
    (found : isBrace brace = true) (rest : List Char) :
    (text ++ brace :: rest).takeWhile (fun c => !isBrace c) = text ∧
      (text ++ brace :: rest).dropWhile (fun c => !isBrace c) = brace :: rest := by
  have others := braceFree_iff_all.mp free
  have ends : RunEnds (fun c => !isBrace c) (brace :: rest) :=
    runEnds_cons (by rw [found]; rfl)
  exact ⟨takeWhile_of_runEnds others ends, dropWhile_of_runEnds others ends⟩

theorem propertyBody_of_rest {lexer : Lexer} {text rest : List Char} (free : BraceFree text)
    (split : lexer.rest = text ++ '}' :: rest) :
    lexer.propertyBody =
      .ok (⟨text, lexer.stop, TextRange.ofLength lexer.start (byteLength text + 2)⟩,
        ⟨lexer.start, lexer.stop + byteLength text + 1, rest⟩) := by
  obtain ⟨taken, dropped⟩ := span_of_brace '}' free rfl rest
  rw [← split] at taken dropped
  simp only [propertyBody, taken, dropped, if_pos]

theorem propertyBody_of_braceFree {lexer : Lexer} (free : BraceFree lexer.rest) :
    lexer.propertyBody = .error (.unterminatedProperty lexer.start) := by
  have dropped : lexer.rest.dropWhile (fun c => !isBrace c) = [] :=
    List.dropWhile_eq_nil_iff.mpr (braceFree_iff_all.mp free)
  simp only [propertyBody, dropped]

theorem propertyBody_of_nested {lexer : Lexer} {text rest : List Char} (free : BraceFree text)
    (split : lexer.rest = text ++ '{' :: rest) :
    lexer.propertyBody =
      .error (.nestedPropertyOpen (TextRange.ofLength (lexer.stop + byteLength text) 1)) := by
  obtain ⟨taken, dropped⟩ := span_of_brace '{' free rfl rest
  rw [← split] at taken dropped
  simp only [propertyBody, taken, dropped]
  rfl

theorem propertyBody_error_cases {lexer : Lexer} {failure : TokenizeError}
    (failed : lexer.propertyBody = .error failure) :
    (BraceFree lexer.rest ∧ failure = .unterminatedProperty lexer.start) ∨
      ∃ text rest, BraceFree text ∧ lexer.rest = text ++ '{' :: rest ∧
        failure = .nestedPropertyOpen (TextRange.ofLength (lexer.stop + byteLength text) 1) := by
  have free : BraceFree (lexer.rest.takeWhile fun c => !isBrace c) :=
    braceFree_iff_all.mpr (List.all_eq_true.mp List.all_takeWhile)
  have whole := List.takeWhile_append_dropWhile (p := fun c => !isBrace c) (l := lexer.rest)
  simp only [propertyBody] at failed
  split at failed
  · rename_i dropped
    cases failed
    rw [dropped, List.append_nil] at whole
    exact .inl ⟨whole ▸ free, rfl⟩
  · rename_i brace rest dropped
    have stops := List.head?_dropWhile_not (fun c => !isBrace c) lexer.rest
    rw [dropped, List.head?_cons] at stops
    split at failed
    · contradiction
    · rename_i other
      cases failed
      have opens : brace = '{' := by simpa [isBrace, other] using stops
      rw [dropped, opens] at whole
      exact .inr ⟨_, rest, free, whole.symm, rfl⟩

theorem propertyBody_ok_iff {lexer after : Lexer} {body : PropertyBody} :
    lexer.propertyBody = .ok (body, after) ↔
      BraceFree body.text ∧ lexer.rest = body.text ++ '}' :: after.rest ∧
        body.offset = lexer.stop ∧
        body.range = TextRange.ofLength lexer.start (byteLength body.text + 2) ∧
        after.start = lexer.start ∧ after.stop = lexer.stop + byteLength body.text + 1 := by
  constructor
  · intro read
    have split := text_append_of_propertyBody read
    simp only [propertyBody] at read
    split at read
    · contradiction
    · split at read
      · simp only [Except.ok.injEq, Prod.mk.injEq] at read
        obtain ⟨rfl, rfl⟩ := read
        exact ⟨braceFree_iff_all.mpr (List.all_eq_true.mp List.all_takeWhile), split, rfl, rfl,
          rfl, rfl⟩
      · contradiction
  · rintro ⟨free, split, offset, range, start, stop⟩
    obtain ⟨text, bodyOffset, bodyRange⟩ := body
    obtain ⟨afterStart, afterStop, rest⟩ := after
    simp only at offset range start stop
    subst offset range start stop
    exact propertyBody_of_rest free split

/-! ## Runs of the tokenizer -/

def Reads (separator : Option Char) (seen : Bool) (lexer : Lexer) (token : Token)
    (last : Lexer) : Prop :=
  ∃ lexeme after, lexer.next = (some lexeme, after) ∧
    after.token separator seen lexeme = .ok (token, last)

def Refuses (separator : Option Char) (seen : Bool) (lexer : Lexer) (failure : TokenizeError) :
    Prop :=
  ∃ lexeme after, lexer.next = (some lexeme, after) ∧
    after.token separator seen lexeme = .error failure

theorem next_eq_none_iff {lexer : Lexer} : lexer.next.1 = none ↔ lexer.rest = [] := by
  cases remaining : lexer.rest with
  | nil => simp [next, remaining]
  | cons c rest => simp [next, remaining]

theorem reads_of_read {lexer last : Lexer} {separator : Option Char} {seen : Bool} {c : Char}
    {rest after : List Char} {kind : LexemeKind} {token : Token}
    (remaining : lexer.rest = c :: rest) (read : LexemeKind.read c rest = (kind, after))
    (step : Lexer.token ⟨lexer.stop, lexer.stop + byteLength kind.text, after⟩ separator seen
      ⟨kind, lexer.stop⟩ = .ok (token, last)) :
    lexer.Reads separator seen token last :=
  ⟨⟨kind, lexer.stop⟩, _, by simp only [next, remaining, read], step⟩

theorem refuses_of_read {lexer : Lexer} {separator : Option Char} {seen : Bool} {c : Char}
    {rest after : List Char} {kind : LexemeKind} {failure : TokenizeError}
    (remaining : lexer.rest = c :: rest) (read : LexemeKind.read c rest = (kind, after))
    (step : Lexer.token ⟨lexer.stop, lexer.stop + byteLength kind.text, after⟩ separator seen
      ⟨kind, lexer.stop⟩ = .error failure) :
    lexer.Refuses separator seen failure :=
  ⟨⟨kind, lexer.stop⟩, _, by simp only [next, remaining, read], step⟩

theorem tokens_of_next {lexer after : Lexer} {separator : Option Char} {seen : Bool}
    {lexeme : Lexeme} (read : lexer.next = (some lexeme, after)) :
    lexer.tokens separator seen =
      match after.token separator seen lexeme with
      | .error failure => .error failure
      | .ok (token, last) =>
          (last.tokens separator (seen || token.value.isPrimaryDelimiter)).map (token :: ·) := by
  rw [Lexer.tokens]
  split
  · rename_i ended
    rw [ended] at read
    cases read
  · rename_i found reached again
    rw [read] at again
    cases again
    split
    · rename_i failure step
      simp only [step]
    · rename_i token last step
      simp only [step]

theorem tokens_of_nil {lexer : Lexer} {separator : Option Char} {seen : Bool}
    (ended : lexer.rest = []) : lexer.tokens separator seen = .ok [] := by
  rw [Lexer.tokens]
  split
  · rfl
  · rename_i read
    rw [next_of_nil ended] at read
    cases read

theorem tokens_of_reads {lexer last : Lexer} {separator : Option Char} {seen : Bool}
    {token : Token} (reads : lexer.Reads separator seen token last) :
    lexer.tokens separator seen =
      (last.tokens separator (seen || token.value.isPrimaryDelimiter)).map (token :: ·) := by
  obtain ⟨lexeme, after, read, step⟩ := reads
  simp only [tokens_of_next read, step]

theorem tokens_of_refuses {lexer : Lexer} {separator : Option Char} {seen : Bool}
    {failure : TokenizeError} (refuses : lexer.Refuses separator seen failure) :
    lexer.tokens separator seen = .error failure := by
  obtain ⟨lexeme, after, read, step⟩ := refuses
  simp only [tokens_of_next read, step]

/-- What a run can do: it is at the end, the text at the front is refused, or a
token is read there. -/
theorem step_cases (lexer : Lexer) (separator : Option Char) (seen : Bool) :
    lexer.rest = [] ∨ (∃ failure, lexer.Refuses separator seen failure) ∨
      ∃ token last, lexer.Reads separator seen token last := by
  cases read : lexer.next with
  | mk lexeme after =>
      cases lexeme with
      | none => exact .inl (next_eq_none_iff.mp (by rw [read]))
      | some lexeme =>
          cases step : after.token separator seen lexeme with
          | error failure => exact .inr (.inl ⟨failure, lexeme, after, read, step⟩)
          | ok taken => exact .inr (.inr ⟨taken.1, taken.2, lexeme, after, read, step⟩)

theorem tokens_eq_nil_iff {lexer : Lexer} {separator : Option Char} {seen : Bool} :
    lexer.tokens separator seen = .ok [] ↔ lexer.rest = [] := by
  constructor
  · intro run
    rcases step_cases lexer separator seen with ended | ⟨failure, refuses⟩ | ⟨token, last, reads⟩
    · exact ended
    · rw [tokens_of_refuses refuses] at run
      cases run
    · rw [tokens_of_reads reads] at run
      obtain ⟨_, _, same⟩ := map_eq_ok_iff.mp run
      cases same
  · exact tokens_of_nil

theorem tokens_eq_cons_iff {lexer : Lexer} {separator : Option Char} {seen : Bool}
    {token : Token} {rest : List Token} :
    lexer.tokens separator seen = .ok (token :: rest) ↔
      ∃ last, lexer.Reads separator seen token last ∧
        last.tokens separator (seen || token.value.isPrimaryDelimiter) = .ok rest := by
  constructor
  · intro run
    rcases step_cases lexer separator seen with ended | ⟨failure, refuses⟩ | ⟨first, last, reads⟩
    · rw [tokens_of_nil ended] at run
      cases run
    · rw [tokens_of_refuses refuses] at run
      cases run
    · rw [tokens_of_reads reads] at run
      obtain ⟨others, restRun, same⟩ := map_eq_ok_iff.mp run
      obtain ⟨rfl, rfl⟩ := List.cons.inj same
      exact ⟨last, reads, restRun⟩
  · rintro ⟨last, reads, restRun⟩
    rw [tokens_of_reads reads, restRun]
    rfl

end Lexer

end CompositeKey
