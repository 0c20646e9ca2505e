import CompositeKey.Proofs.Template.Grammar

/-!
# Where reading a template fails

A template fails at the first construct that is malformed.  `Malformed` lists what
can be wrong at the front of a text, and `tokenize_eq_error_iff` says that these
are the only failures of a template behind the tokens in front of the construct.
-/

set_option autoImplicit false

namespace CompositeKey

/-- Why no token can be read at the front of a text.  As in `Reading`, the text
stands at an offset and `seen` tells whether the primary delimiter has come before. -/
inductive Malformed (separator : Option Char) (seen : Bool) (offset : Nat) :
    List Char → TokenizeError → Prop where
  | duplicate {c : Char} {rest : List Char} (configured : separator = some c)
      (again : seen = true) :
      Malformed separator seen offset (c :: rest)
        (.duplicatePrimarySeparator c (TextRange.ofLength offset c.utf8Size))
  | unterminated {text : List Char} (free : BraceFree text) :
      Malformed separator seen offset ('{' :: text) (.unterminatedProperty offset)
  | nested {text rest : List Char} (free : BraceFree text) :
      Malformed separator seen offset ('{' :: text ++ '{' :: rest)
        (.nestedPropertyOpen (TextRange.ofLength (offset + 1 + byteLength text) 1))
  | property {text rest : List Char} {failure : TokenizeError} (free : BraceFree text)
      (refused : PropertyBody.token
        ⟨text, offset + 1, TextRange.ofLength offset (byteLength text + 2)⟩ = .error failure) :
      Malformed separator seen offset ('{' :: text ++ '}' :: rest) failure

def seesPrimary (tokens : List Token) : Bool :=
  tokens.any fun token => token.value.isPrimaryDelimiter

/-- A text is read as tokens up to a construct, and the construct is malformed. -/
structure FailsAt (separator : Option Char) (text before construct : List Char)
    (tokens : List Token) (failure : TokenizeError) : Prop where
  split : text = before ++ construct
  reading : Reading separator false 0 before tokens
  malformed : Malformed separator (seesPrimary tokens) (byteLength before) construct failure

namespace Precedes

variable {separator : Option Char} {seen : Bool} {value : TemplateToken} {rest more : List Char}

theorem append (fits : Precedes separator seen value rest) (ends : WordEnds more) :
    Precedes separator seen value (rest ++ more) :=
  ⟨fits.formed, fun constant => (fits.ends constant).append ends, fits.first⟩

theorem of_append (fits : Precedes separator seen value (rest ++ more)) :
    Precedes separator seen value rest :=
  ⟨fits.formed, fun constant => (fits.ends constant).of_append, fits.first⟩

end Precedes

namespace Malformed

variable {separator : Option Char} {seen : Bool} {offset : Nat} {text : List Char}
  {failure : TokenizeError}

/-- Only a property that is never closed may be mended by more text. -/
theorem append (malformed : Malformed separator seen offset text failure)
    (closed : ∀ start, failure ≠ .unterminatedProperty start) (more : List Char) :
    Malformed separator seen offset (text ++ more) failure := by
  cases malformed with
  | duplicate configured again => exact .duplicate configured again
  | unterminated free => exact absurd rfl (closed offset)
  | nested free =>
      rw [List.append_assoc, List.cons_append]
      exact .nested free
  | property free refused =>
      rw [List.append_assoc, List.cons_append]
      exact .property free refused

theorem ne_nil (malformed : Malformed separator seen offset text failure) : text ≠ [] := by
  cases malformed <;> simp

theorem behind_nil_iff :
    Malformed separator (seen || seesPrimary []) (offset + byteLength []) text failure ↔
      Malformed separator seen offset text failure := by
  simp [seesPrimary]

theorem behind_cons_iff {value : TemplateToken} {range : TextRange} {before : List Char}
    {tokens : List Token} :
    Malformed separator (seen || seesPrimary (⟨value, range⟩ :: tokens))
        (offset + byteLength (value.written ++ before)) text failure ↔
      Malformed separator (seen || value.isPrimaryDelimiter || seesPrimary tokens)
        (offset + byteLength value.written + byteLength before) text failure := by
  rw [byteLength_append, ← Nat.add_assoc]
  simp [seesPrimary, Bool.or_assoc]

theorem wordEnds (usable : UsableSeparator separator)
    (malformed : Malformed separator seen offset text failure) : WordEnds text := by
  cases malformed with
  | @duplicate c rest configured again =>
      have symbol := CharClass.of_eq_symbol_iff.mp (lexesAsSymbol_iff.mp (usable c configured))
      exact runEnds_cons symbol.2.2
  | unterminated free => exact runEnds_cons isLetterOrNumber_openBrace
  | nested free => exact runEnds_cons isLetterOrNumber_openBrace
  | property free refused => exact runEnds_cons isLetterOrNumber_openBrace

theorem of_unconfigured (malformed : Malformed none seen offset text failure)
    (separator : Option Char) (again : Bool) : Malformed separator again offset text failure := by
  cases malformed with
  | duplicate configured _ => cases configured
  | unterminated free => exact .unterminated free
  | nested free => exact .nested free
  | property free refused => exact .property free refused

end Malformed

namespace Lexer

variable {separator : Option Char} {seen : Bool} {failure : TokenizeError}

theorem delimiterToken_error {c : Char} {range : TextRange}
    (failed : delimiterToken separator seen c range = .error failure) :
    separator = some c ∧ seen = true ∧ failure = .duplicatePrimarySeparator c range := by
  unfold delimiterToken at failed
  split at failed
  · rename_i configured
    split at failed
    · rename_i again
      cases failed
      exact ⟨configured, again, rfl⟩
    · contradiction
  · contradiction

theorem malformed_of_refuses {lexer : Lexer}
    (refuses : lexer.Refuses separator seen failure) :
    Malformed separator seen lexer.stop lexer.rest failure := by
  obtain ⟨lexeme, after, taken, step⟩ := refuses
  cases remaining : lexer.rest with
  | nil => simp [next, remaining] at taken
  | cons c rest =>
      simp only [next, remaining, Prod.mk.injEq, Option.some.injEq] at taken
      obtain ⟨rfl, rfl⟩ := taken
      cases found : CharClass.of c with
      | openBrace =>
          have opens := CharClass.eq_of_openBrace found
          subst opens
          simp only [Lexer.token, LexemeKind.read, found] at step
          split at step
          · rename_i bodyFailed
            cases step
            rcases propertyBody_error_cases bodyFailed with
              ⟨free, rfl⟩ | ⟨text, others, free, split, rfl⟩
            · exact .unterminated free
            · simp only at split
              rw [split]
              exact .nested free
          · rename_i body behind bodyRead
            have refused := map_eq_error_iff.mp step
            obtain ⟨free, split, offset, range, _⟩ := propertyBody_ok_iff.mp bodyRead
            obtain ⟨text, bodyOffset, bodyRange⟩ := body
            simp only at free split offset range
            subst offset range
            rw [split]
            exact .property free refused
      | closeBrace =>
          have closes := CharClass.eq_of_closeBrace found
          subst closes
          simp only [Lexer.token, LexemeKind.read, found] at step
          obtain ⟨configured, again, rfl⟩ := delimiterToken_error (map_eq_error_iff.mp step)
          exact .duplicate configured again
      | wordChar => simp [Lexer.token, LexemeKind.read, found] at step
      | symbol =>
          simp only [Lexer.token, LexemeKind.read, found] at step
          obtain ⟨configured, again, rfl⟩ := delimiterToken_error (map_eq_error_iff.mp step)
          exact .duplicate configured again

theorem refuses_of_malformed {lexer : Lexer} {text : List Char}
    (usable : UsableSeparator separator) (remaining : lexer.rest = text)
    (malformed : Malformed separator seen lexer.stop text failure) :
    lexer.Refuses separator seen failure := by
  have opening : byteLength LexemeKind.openBrace.text = 1 := rfl
  cases malformed with
  | @duplicate c rest configured again =>
      have read : LexemeKind.read c rest = (.symbol c, rest) := by
        simp only [LexemeKind.read, lexesAsSymbol_iff.mp (usable c configured)]
      refine refuses_of_read remaining read ?_
      simp only [Lexer.token, delimiterToken, configured, again]
      rfl
  | @unterminated text free =>
      have read : LexemeKind.read '{' text = (.openBrace, text) := rfl
      have inside : Lexer.propertyBody ⟨lexer.stop, lexer.stop + 1, text⟩ = _ :=
        propertyBody_of_braceFree free
      refine refuses_of_read remaining read ?_
      simp only [Lexer.token, opening, inside]
  | @nested text rest free =>
      have read : LexemeKind.read '{' (text ++ '{' :: rest) =
          (.openBrace, text ++ '{' :: rest) := rfl
      have inside : Lexer.propertyBody ⟨lexer.stop, lexer.stop + 1, text ++ '{' :: rest⟩ = _ :=
        propertyBody_of_nested free rfl
      refine refuses_of_read remaining read ?_
      simp only [Lexer.token, opening, inside]
  | @property text rest failure free refused =>
      have read : LexemeKind.read '{' (text ++ '}' :: rest) =
          (.openBrace, text ++ '}' :: rest) := rfl
      have inside : Lexer.propertyBody ⟨lexer.stop, lexer.stop + 1, text ++ '}' :: rest⟩ = _ :=
        propertyBody_of_rest free rfl
      refine refuses_of_read remaining read ?_
      simp only [Lexer.token, opening, inside, refused]
      rfl

end Lexer

/-! ## Runs -/

section Runs

variable {separator : Option Char} {failure : TokenizeError}

theorem exists_malformed_of_tokens {lexer : Lexer} {seen : Bool}
    (failed : lexer.tokens separator seen = .error failure) :
    ∃ before construct tokens, lexer.rest = before ++ construct ∧
      Reading separator seen lexer.stop before tokens ∧
      Malformed separator (seen || seesPrimary tokens) (lexer.stop + byteLength before)
        construct failure := by
  -- The text behind a token is shorter than the text the token begins.
  induction length : lexer.rest.length using Nat.strong_induction_on generalizing lexer seen with
  | _ bound ih =>
      subst length
      rcases Lexer.step_cases lexer separator seen with
        ended | ⟨found, refuses⟩ | ⟨token, last, reads⟩
      · rw [Lexer.tokens_of_nil ended] at failed
        cases failed
      · rw [Lexer.tokens_of_refuses refuses] at failed
        cases failed
        have malformed := Lexer.malformed_of_refuses refuses
        exact ⟨[], lexer.rest, [], rfl, .done, Malformed.behind_nil_iff.mpr malformed⟩
      · rw [Lexer.tokens_of_reads reads] at failed
        obtain ⟨fits, split, range, _, stop⟩ := Lexer.precedes_of_reads reads
        have nonempty := TemplateToken.written_ne_nil fits.formed
        have shorter : last.rest.length < lexer.rest.length := by
          have positive := List.length_pos_iff.mpr nonempty
          rw [split, List.length_append]
          omega
        obtain ⟨before, construct, tokens, behind, reading, malformed⟩ :=
          ih _ shorter (map_eq_error_iff.mp failed) rfl
        obtain ⟨value, tokenRange⟩ := token
        simp only at fits split range stop reading malformed
        subst range
        rw [stop] at reading malformed
        rw [behind] at fits
        refine ⟨value.written ++ before, construct, _, ?_, .token fits.of_append reading, ?_⟩
        · rw [split, behind, List.append_assoc]
        · exact Malformed.behind_cons_iff.mpr malformed

theorem tokens_of_malformed {seen : Bool} {offset : Nat} {before construct : List Char}
    {tokens : List Token} (usable : UsableSeparator separator)
    (reading : Reading separator seen offset before tokens)
    (malformed : Malformed separator (seen || seesPrimary tokens) (offset + byteLength before)
      construct failure) (start : Nat) :
    Lexer.tokens ⟨start, offset, before ++ construct⟩ separator seen = .error failure := by
  induction reading generalizing start with
  | @done seen offset =>
      apply Lexer.tokens_of_refuses
      exact Lexer.refuses_of_malformed usable rfl (Malformed.behind_nil_iff.mp malformed)
  | @token seen offset value rest others fits behind ih =>
      -- A constant in front of the construct ends there: no construct goes on a word.
      have ahead := fits.append (malformed.wordEnds usable)
      have split : value.written ++ rest ++ construct = value.written ++ (rest ++ construct) :=
        List.append_assoc _ _ _
      rw [Lexer.tokens_of_reads (Lexer.reads_of_precedes usable ahead split),
        ih (Malformed.behind_cons_iff.mp malformed)]
      rfl

end Runs

section Templates

variable {template : String} {separator : Option Char} {failure : TokenizeError}

theorem usableSeparator_none : UsableSeparator none := by
  intro c found
  cases found

theorem usableSeparator_of_symbol {c : Char} (symbol : lexesAsSymbol c = true) :
    UsableSeparator (some c) := by
  intro d same
  obtain rfl := Option.some.inj same
  exact symbol

theorem usableSeparator_or_exists (separator : Option Char) :
    UsableSeparator separator ∨ ∃ c, separator = some c ∧ lexesAsSymbol c = false := by
  cases separator with
  | none => exact .inl usableSeparator_none
  | some c =>
      cases symbol : lexesAsSymbol c with
      | false => exact .inr ⟨c, rfl, symbol⟩
      | true => exact .inl (usableSeparator_of_symbol symbol)

theorem tokenize_of_unusable {c : Char} (nonempty : template ≠ "")
    (invalid : lexesAsSymbol c = false) :
    tokenize template (some c) = .error (.invalidPrimarySeparator c) := by
  have present : template.isEmpty = false := by
    simpa [String.isEmpty_iff] using nonempty
  simp [tokenize, present, invalid]

theorem tokenize_of_failsAt {before construct : List Char} {tokens : List Token}
    (usable : UsableSeparator separator)
    (fails : FailsAt separator template.toList before construct tokens failure) :
    tokenize template separator = .error failure := by
  have nonempty : template.toList ≠ [] := by
    intro empty
    have none := fails.split
    rw [empty] at none
    obtain ⟨_, rfl⟩ := List.append_eq_nil_iff.mp none.symm
    exact fails.malformed.ne_nil rfl
  have malformed := fails.malformed
  rw [tokenize_of_usable usable nonempty, Lexer.ofText, fails.split]
  apply tokens_of_malformed usable fails.reading
  rw [Nat.zero_add, Bool.false_or]
  exact malformed

theorem exists_failsAt_of_tokenize (usable : UsableSeparator separator)
    (nonempty : template ≠ "") (failed : tokenize template separator = .error failure) :
    ∃ before construct tokens,
      FailsAt separator template.toList before construct tokens failure := by
  have present : template.toList ≠ [] := by
    simpa using nonempty
  rw [tokenize_of_usable usable present] at failed
  obtain ⟨before, construct, tokens, split, reading, malformed⟩ :=
    exists_malformed_of_tokens failed
  simp only [Lexer.ofText, Nat.zero_add, Bool.false_or] at split reading malformed
  exact ⟨before, construct, tokens, split, reading, malformed⟩

theorem tokenize_of_reading {front : List Char} {tokens : List Token}
    (usable : UsableSeparator separator) (reading : Reading separator false 0 front tokens) :
    front = [] ∧ tokens = [] ∨ tokenize (String.ofList front) separator = .ok tokens := by
  by_cases empty : front = []
  · refine .inl ⟨empty, ?_⟩
    cases reading with
    | done => rfl
    | token fits behind =>
        exact absurd (List.append_eq_nil_iff.mp empty).1 (TemplateToken.written_ne_nil fits.formed)
  · refine .inr (tokenize_eq_ok_iff.mpr ⟨usable, ?_, ?_⟩)
    · rwa [String.toList_ofList]
    · rwa [String.toList_ofList]

/-- A template fails because it is empty, because of its separator, or at its first
malformed construct. -/
theorem tokenize_eq_error_iff :
    tokenize template separator = .error failure ↔
      (template = "" ∧ failure = .emptyTemplate) ∨
      (template ≠ "" ∧ ∃ c, separator = some c ∧ lexesAsSymbol c = false ∧
        failure = .invalidPrimarySeparator c) ∨
      UsableSeparator separator ∧ ∃ before construct tokens,
        FailsAt separator template.toList before construct tokens failure := by
  constructor
  · intro failed
    by_cases empty : template = ""
    · subst empty
      cases failed
      exact .inl ⟨rfl, rfl⟩
    · rcases usableSeparator_or_exists separator with usable | ⟨c, rfl, invalid⟩
      · exact .inr (.inr ⟨usable, exists_failsAt_of_tokenize usable empty failed⟩)
      · rw [tokenize_of_unusable empty invalid] at failed
        cases failed
        exact .inr (.inl ⟨empty, c, rfl, invalid, rfl⟩)
  · rintro (⟨rfl, rfl⟩ | ⟨nonempty, c, rfl, invalid, rfl⟩ | ⟨usable, _, _, _, fails⟩)
    · rfl
    · exact tokenize_of_unusable nonempty invalid
    · exact tokenize_of_failsAt usable fails

end Templates

end CompositeKey
