import CompositeKey.Proofs.Template.FailFast
import CompositeKey.Template.Checked

/-!
# Ranges past the largest offset

A range of two clamped numbers can be made unless the piece begins behind the start
of a text and ends past the largest offset.  A run has no answer exactly when it comes
to such a piece: the piece of a token, or one that the failure of a construct is about.
-/

set_option autoImplicit false

namespace CompositeKey

/-- A piece whose range can be made: it begins a text, it is empty, or it ends no later
than at the largest offset. -/
def Fits (start length : Nat) : Prop := start = 0 ∨ length = 0 ∨ start + length ≤ maxOffset

def insideLength (construct : List Char) : Nat :=
  byteLength (construct.tail.takeWhile fun c => !isBrace c)

/-- Reporting a malformed construct at an offset takes a range that does not fit. -/
def Overflows (offset : Nat) (construct : List Char) : TokenizeError → Prop
  | .duplicatePrimarySeparator c _ => ¬ Fits offset c.utf8Size
  | .unterminatedProperty _ => False
  | .nestedPropertyOpen _ => ¬ Fits (offset + 1 + insideLength construct) 1
  | .trailingRepeatingText _ _ =>
      ¬ Fits offset (insideLength construct + 2) ∨
        maxOffset < offset + 1 + insideLength construct
  | _ => ¬ Fits offset (insideLength construct + 2)

/-- One of the tokens read from an offset on does not fit behind the tokens in front of
it. -/
def Overruns (offset : Nat) (tokens : List Token) : Prop :=
  ∃ before token after, tokens = before ++ token :: after ∧
    ¬ Fits (offset + byteLength (writtenTokens (before.map Token.value)))
      (byteLength token.value.written)

section Ranges

variable {start length : Nat} {range : TextRange}

theorem fits_iff : Fits start length ↔ clampOffset start + clampOffset length ≤ maxOffset := by
  simp only [Fits, clampOffset, maxOffset]
  omega

theorem ofLength?_eq_none_iff : TextRange.ofLength? start length = none ↔ ¬ Fits start length := by
  rw [Option.eq_none_iff_forall_ne_some]
  constructor
  · intro absent fits
    exact absent _ (TextRange.ofLength?_eq_some_iff.mpr ⟨fits_iff.mp fits, rfl⟩)
  · intro unfit range made
    exact unfit (fits_iff.mpr (TextRange.ofLength?_eq_some_iff.mp made).1)

theorem ofLength?_eq_some_iff_ends :
    TextRange.ofLength? start length = some range ↔
      Fits start length ∧ range.start = min start maxOffset ∧
        range.stop = min (start + length) maxOffset := by
  rw [TextRange.ofLength?_eq_some_iff, ← fits_iff]
  refine and_congr_right fun _ => ?_
  constructor
  · rintro rfl
    exact ⟨rfl, rfl⟩
  · rintro ⟨first, last⟩
    exact TextRange.ext first last

theorem lt_of_not_fits (unfit : ¬ Fits start length) :
    0 < start ∧ 0 < length ∧ maxOffset < start + length := by
  simp only [Fits] at unfit
  omega

end Ranges

namespace PropertyBody

variable {body : PropertyBody} {nameText after : List Char}

theorem repeatingToken_eq_trailing_iff :
    (∃ name range, body.repeatingToken nameText after =
        .error (.trailingRepeatingText name range)) ↔
      ∃ name separator c trailing, body.name nameText = .ok name ∧
        after = separator :: c :: trailing ∧ c ≠ ':' := by
  constructor
  · rintro ⟨name, range, failed⟩
    rcases bind_eq_error_iff.mp failed with unnamed | ⟨found, named, failed⟩
    · cases name_error unnamed
    · split at failed
      · cases failed
      · cases failed
      · rcases bind_eq_error_iff.mp failed with unformatted | ⟨format, _, done⟩
        · cases format_error unformatted
        · cases done
      · rename_i separator trailing single colon _
        cases trailing with
        | nil => exact (single rfl).elim
        | cons c more =>
            refine ⟨found, separator, c, more, named, rfl, ?_⟩
            rintro rfl
            exact colon more rfl
  · rintro ⟨name, separator, c, trailing, named, rfl, other⟩
    exact ⟨name, _, repeatingToken_of_trailing named other⟩

theorem repeatingToken?_eq_none_iff (placed : 0 < body.offset)
    (split : body.text = nameText ++ repeatMarker ++ after) :
    body.repeatingToken? nameText after = none ↔
      (∃ name range, body.repeatingToken nameText after =
        .error (.trailingRepeatingText name range)) ∧
      maxOffset < body.offset + byteLength body.text := by
  rw [repeatingToken_eq_trailing_iff]
  unfold repeatingToken?
  split
  · rename_i name separator c trailing named
    have marker : byteLength repeatMarker = 3 := rfl
    have positive : 0 < c.utf8Size := c.utf8Size_pos
    rw [split]
    simp only [byteLength_append, byteLength_cons, marker]
    by_cases colon : c = ':'
    · rw [if_pos colon]
      refine ⟨fun absent => (by cases absent), ?_⟩
      rintro ⟨⟨_, _, d, _, _, same, other⟩, _⟩
      simp only [List.cons.injEq] at same
      exact absurd (same.2.1 ▸ colon) other
    · rw [if_neg colon, Option.map_eq_none_iff, ofLength?_eq_none_iff, Fits]
      constructor
      · intro unfit
        exact ⟨⟨name, separator, c, trailing, named, rfl, colon⟩, by omega⟩
      · rintro ⟨_, past⟩
        omega
  · rename_i different
    refine ⟨fun absent => (by cases absent), ?_⟩
    rintro ⟨⟨name, separator, c, trailing, named, same, _⟩, _⟩
    exact absurd same (different name separator c trailing named)

theorem written_of_token {value : TemplateToken} (free : BraceFree body.text)
    (read : body.token = .ok value) : value.written = '{' :: body.text ++ ['}'] := by
  obtain ⟨property, same⟩ := (token_ok_iff free).mp read
  rw [TemplateToken.written_of_isProperty property, same]

theorem token?_eq_none_iff (placed : 0 < body.offset) :
    body.token? = none ↔
      (∃ name range, body.token = .error (.trailingRepeatingText name range)) ∧
        maxOffset < body.offset + byteLength body.text := by
  have scalar : ¬ ∃ name range, body.scalarToken = .error (.trailingRepeatingText name range) :=
    fun ⟨name, range, failed⟩ => body.scalarToken_ne_trailing name range failed
  cases found : splitAtMarker body.text with
  | none => simp only [token?, token, found, scalar, false_and, reduceCtorEq]
  | some parts =>
      obtain ⟨whole, _, _⟩ := splitAtMarker_eq_some_iff.mp found
      simp only [token?, token, found]
      split
      · simp only [scalar, false_and, reduceCtorEq]
      · exact repeatingToken?_eq_none_iff placed whole

end PropertyBody

/-! ## One step -/

namespace Lexer

variable {separator : Option Char} {seen : Bool} {lexer after last : Lexer} {lexeme : Lexeme}
  {token : Token} {failure : TokenizeError}

theorem propertyBody?_eq_none_iff_of_rest {text rest : List Char} (free : BraceFree text)
    (split : lexer.rest = text ++ '}' :: rest) :
    lexer.propertyBody? = none ↔ ¬ Fits lexer.start (byteLength text + 2) := by
  obtain ⟨taken, dropped⟩ := span_of_brace '}' free rfl rest
  rw [← split] at taken dropped
  simp only [propertyBody?, taken, dropped, if_true, Option.map_eq_none_iff,
    ofLength?_eq_none_iff]

theorem propertyBody?_eq_none_iff_of_nested {text rest : List Char} (free : BraceFree text)
    (split : lexer.rest = text ++ '{' :: rest) :
    lexer.propertyBody? = none ↔ ¬ Fits (lexer.stop + byteLength text) 1 := by
  obtain ⟨taken, dropped⟩ := span_of_brace '{' free rfl rest
  have opens : ¬ '{' = '}' := by decide
  rw [← split] at taken dropped
  simp only [propertyBody?, taken, dropped, if_neg opens, Option.map_eq_none_iff,
    ofLength?_eq_none_iff]

theorem propertyBody?_of_braceFree (free : BraceFree lexer.rest) :
    lexer.propertyBody? = some (.error (.unterminatedProperty lexer.start)) := by
  have dropped : lexer.rest.dropWhile (fun c => !isBrace c) = [] :=
    List.dropWhile_eq_nil_iff.mpr (braceFree_iff_all.mp free)
  simp only [propertyBody?, dropped]

theorem propertyBody?_eq_none_iff_of_ok {body : PropertyBody}
    (read : lexer.propertyBody = .ok (body, after)) :
    lexer.propertyBody? = none ↔ ¬ Fits lexer.start (byteLength body.text + 2) := by
  obtain ⟨free, split, _⟩ := propertyBody_ok_iff.mp read
  exact propertyBody?_eq_none_iff_of_rest free split

theorem token?_eq_none_iff_of_ne (other : lexeme.kind ≠ .openBrace) :
    lexer.token? separator seen lexeme = none ↔
      ¬ Fits lexeme.offset (byteLength lexeme.text) := by
  unfold token?
  split
  · contradiction
  · rw [Option.map_eq_none_iff, Lexeme.range?, ofLength?_eq_none_iff]

theorem token?_eq_none_iff_of_open (opens : lexeme.kind = .openBrace) :
    lexer.token? separator seen lexeme = none ↔
      lexer.propertyBody? = none ∨
        ∃ body after, lexer.propertyBody = .ok (body, after) ∧ body.token? = none := by
  unfold token?
  rw [opens]
  simp only
  split
  · rename_i absent
    simp [absent]
  · rename_i found
    have same := eq_of_propertyBody? found
    simp [found, ← same]
  · rename_i body after found
    have same := eq_of_propertyBody? found
    simp [found, ← same]

theorem last_eq_of_token (other : lexeme.kind ≠ .openBrace)
    (step : lexer.token separator seen lexeme = .ok (token, last)) : last = lexer := by
  unfold Lexer.token at step
  split at step
  · cases step
    rfl
  · contradiction
  all_goals
    obtain ⟨_, _, same⟩ := map_eq_ok_iff.mp step
    exact (Prod.mk.inj same).2.symm

theorem exists_cons_of_next (read : lexer.next = (some lexeme, after)) :
    ∃ c rest, lexer.rest = c :: rest := by
  apply List.exists_cons_of_ne_nil
  intro ended
  rw [next_of_nil ended] at read
  cases read

/-- Reading a token has no answer exactly when its own range does not fit. -/
theorem token?_eq_none_iff_of_reads (read : lexer.next = (some lexeme, after))
    (step : after.token separator seen lexeme = .ok (token, last)) :
    after.token? separator seen lexeme = none ↔
      ¬ Fits lexer.stop (byteLength token.value.written) := by
  obtain ⟨c, rest, remaining⟩ := exists_cons_of_next read
  have taken := text_append_of_next read
  obtain ⟨_, split, _⟩ := precedes_of_reads ⟨lexeme, after, read, step⟩
  rw [next_of_cons remaining] at read
  cases read
  by_cases opens : (LexemeKind.read c rest).1 = .openBrace
  · rw [token?_eq_none_iff_of_open opens]
    simp only [Lexer.token, opens] at step
    split at step
    · cases step
    · rename_i body behind bodyRead
      obtain ⟨value, valueRead, same⟩ := map_eq_ok_iff.mp step
      obtain ⟨rfl, rfl⟩ := Prod.mk.inj same
      obtain ⟨free, _, offset, _⟩ := propertyBody_ok_iff.mp bodyRead
      have placed : 0 < body.offset := by
        rw [offset]
        exact Nat.succ_pos _
      have answered : body.token? ≠ none := by
        rw [ne_eq, PropertyBody.token?_eq_none_iff placed, valueRead]
        rintro ⟨⟨_, _, refused⟩, _⟩
        cases refused
      simp only [opens]
      rw [propertyBody?_eq_none_iff_of_ok bodyRead, PropertyBody.written_of_token free valueRead,
        byteLength_braced]
      simp only [bodyRead, Except.ok.injEq, Prod.mk.injEq]
      constructor
      · rintro (unfit | ⟨_, _, ⟨rfl, _⟩, absent⟩)
        · exact unfit
        · exact absurd absent answered
      · exact .inl
  · obtain rfl := last_eq_of_token opens step
    have written : token.value.written = Lexeme.text ⟨(LexemeKind.read c rest).1, lexer.stop⟩ :=
      List.append_cancel_right (split.symm.trans taken)
    rw [token?_eq_none_iff_of_ne opens, written]

theorem insideLength_of_brace {text : List Char} (brace : Char) (free : BraceFree text)
    (found : isBrace brace = true) (rest : List Char) :
    insideLength ('{' :: (text ++ brace :: rest)) = byteLength text := by
  rw [insideLength, List.tail_cons, (span_of_brace brace free found rest).1]

theorem propertyBody?_eq_none_iff_of_error {rest : List Char}
    (failed : Lexer.propertyBody ⟨lexer.stop, lexer.stop + 1, rest⟩ = .error failure) :
    Lexer.propertyBody? ⟨lexer.stop, lexer.stop + 1, rest⟩ = none ↔
      Overflows lexer.stop ('{' :: rest) failure := by
  rcases propertyBody_error_cases failed with ⟨free, rfl⟩ | ⟨text, others, free, split, rfl⟩
  · rw [propertyBody?_of_braceFree free]
    simp [Overflows]
  · simp only at split
    subst split
    rw [propertyBody?_eq_none_iff_of_nested free rfl, Overflows,
      insideLength_of_brace '{' free rfl]

theorem propertyBody?_or_token?_eq_none_iff {rest : List Char} {body : PropertyBody}
    (read : Lexer.propertyBody ⟨lexer.stop, lexer.stop + 1, rest⟩ = .ok (body, after))
    (refused : body.token = .error failure) :
    Lexer.propertyBody? ⟨lexer.stop, lexer.stop + 1, rest⟩ = none ∨ body.token? = none ↔
      Overflows lexer.stop ('{' :: rest) failure := by
  obtain ⟨free, split, offset, _⟩ := propertyBody_ok_iff.mp read
  simp only at split offset
  have inside : insideLength ('{' :: rest) = byteLength body.text := by
    rw [split]
    exact insideLength_of_brace '}' free rfl _
  have placed : 0 < body.offset := by omega
  rw [propertyBody?_eq_none_iff_of_ok read, PropertyBody.token?_eq_none_iff placed, refused, offset,
    ← inside]
  cases PropertyBody.refusal_of_token refused <;> simp [Overflows]

/-- Refusing a construct has no answer exactly when reporting it takes a range that does
not fit. -/
theorem token?_eq_none_iff_of_refuses (read : lexer.next = (some lexeme, after))
    (step : after.token separator seen lexeme = .error failure) :
    after.token? separator seen lexeme = none ↔ Overflows lexer.stop lexer.rest failure := by
  obtain ⟨c, rest, remaining⟩ := exists_cons_of_next read
  rw [next_of_cons remaining] at read
  cases read
  rw [remaining]
  cases found : CharClass.of c with
  | openBrace =>
      have opens := CharClass.eq_of_openBrace found
      subst opens
      have first : LexemeKind.read '{' rest = (.openBrace, rest) := rfl
      have opening : byteLength LexemeKind.openBrace.text = 1 := rfl
      simp only [first, opening] at step ⊢
      rw [token?_eq_none_iff_of_open rfl]
      simp only [Lexer.token] at step
      split at step
      · rename_i bodyFailed
        cases step
        simp [bodyFailed, propertyBody?_eq_none_iff_of_error bodyFailed]
      · rename_i body behind bodyRead
        have refused := map_eq_error_iff.mp step
        simp [bodyRead, ← propertyBody?_or_token?_eq_none_iff bodyRead refused]
  | closeBrace =>
      have closes := CharClass.eq_of_closeBrace found
      subst closes
      simp only [Lexer.token, LexemeKind.read, found] at step
      obtain ⟨_, _, rfl⟩ := delimiterToken_error (map_eq_error_iff.mp step)
      exact token?_eq_none_iff_of_ne (by simp [LexemeKind.read])
  | wordChar => simp [Lexer.token, LexemeKind.read, found] at step
  | symbol =>
      simp only [Lexer.token, LexemeKind.read, found] at step ⊢
      obtain ⟨_, _, rfl⟩ := delimiterToken_error (map_eq_error_iff.mp step)
      exact token?_eq_none_iff_of_ne (by simp)

/-! ## Runs -/

theorem tokens?_of_nil (ended : lexer.rest = []) :
    lexer.tokens? separator seen = some (.ok []) := by
  rw [Lexer.tokens?]
  split
  · rfl
  · rename_i read
    rw [next_of_nil ended] at read
    cases read

theorem tokens?_of_next (read : lexer.next = (some lexeme, after)) :
    lexer.tokens? separator seen =
      match after.token? separator seen lexeme with
      | none => none
      | some (.error failure) => some (.error failure)
      | some (.ok (token, last)) =>
          (last.tokens? separator (seen || token.value.isPrimaryDelimiter)).map fun others =>
            others.map (token :: ·) := by
  rw [Lexer.tokens?]
  split
  · rename_i ended
    rw [ended] at read
    cases read
  · rename_i found reached again
    rw [read] at again
    cases again
    split
    · rename_i step
      simp only [step]
    · rename_i failure step
      simp only [step]
    · rename_i token last step
      simp only [step]

theorem eq_of_tokens? {answer : Except TokenizeError (List Token)}
    (run : lexer.tokens? separator seen = some answer) : answer = lexer.tokens separator seen := by
  -- The text behind a token is shorter than the text the token begins.
  induction length : lexer.rest.length using Nat.strong_induction_on
      generalizing lexer seen answer with
  | _ bound ih =>
      subst length
      cases read : lexer.next with
      | mk found reached =>
          cases found with
          | none =>
              have ended := next_eq_none_iff.mp (congrArg Prod.fst read)
              rw [tokens?_of_nil ended] at run
              rw [tokens_of_nil ended, Option.some.inj run]
          | some lexeme =>
              rw [tokens?_of_next read] at run
              rw [tokens_of_next read]
              split at run
              · contradiction
              · rename_i failure step
                cases run
                simp only [← eq_of_token? step]
              · rename_i token last step
                obtain ⟨others, behind, rfl⟩ := Option.map_eq_some_iff.mp run
                have same := eq_of_token? step
                have shorter := Nat.lt_of_le_of_lt (length_le_of_token same.symm)
                  (length_lt_of_next read)
                rw [← same, ih _ shorter behind rfl]

theorem tokens?_eq_none_iff_of_reads (reads : lexer.Reads separator seen token last) :
    lexer.tokens? separator seen = none ↔
      ¬ Fits lexer.stop (byteLength token.value.written) ∨
        last.tokens? separator (seen || token.value.isPrimaryDelimiter) = none := by
  obtain ⟨lexeme, after, read, step⟩ := reads
  rw [tokens?_of_next read, ← token?_eq_none_iff_of_reads read step]
  cases made : after.token? separator seen lexeme with
  | none => simp
  | some answer => simp [(eq_of_token? made).trans step]

theorem tokens?_eq_none_iff_of_refuses (refuses : lexer.Refuses separator seen failure) :
    lexer.tokens? separator seen = none ↔ Overflows lexer.stop lexer.rest failure := by
  obtain ⟨lexeme, after, read, step⟩ := refuses
  rw [tokens?_of_next read, ← token?_eq_none_iff_of_refuses read step]
  cases made : after.token? separator seen lexeme with
  | none => simp
  | some answer => simp [(eq_of_token? made).trans step]

end Lexer

section Runs

variable {separator : Option Char} {seen : Bool} {offset : Nat} {before construct text : List Char}
  {tokens : List Token} {failure : TokenizeError}

theorem not_overruns_nil : ¬ Overruns offset [] := by
  rintro ⟨front, token, behind, split, _⟩
  cases (List.append_eq_nil_iff.mp split.symm).2

theorem overruns_cons_iff {token : Token} {others : List Token} :
    Overruns offset (token :: others) ↔
      ¬ Fits offset (byteLength token.value.written) ∨
        Overruns (offset + byteLength token.value.written) others := by
  have written (tokens : List Token) :
      offset + byteLength (writtenTokens ((token :: tokens).map Token.value)) =
        offset + byteLength token.value.written +
          byteLength (writtenTokens (tokens.map Token.value)) := by
    rw [List.map_cons, writtenTokens_cons, byteLength_append, Nat.add_assoc]
  constructor
  · rintro ⟨front, found, behind, split, unfit⟩
    cases front with
    | nil =>
        obtain ⟨rfl, rfl⟩ := List.cons.inj split
        exact .inl unfit
    | cons first more =>
        obtain ⟨rfl, rfl⟩ := List.cons.inj split
        rw [written] at unfit
        exact .inr ⟨more, found, behind, rfl, unfit⟩
  · rintro (unfit | ⟨front, found, behind, rfl, unfit⟩)
    · exact ⟨[], token, others, rfl, unfit⟩
    · rw [← written] at unfit
      exact ⟨token :: front, found, behind, rfl, unfit⟩

/-- Tokens do not fit when their text ends past the largest offset, but for a token that
begins a text. -/
theorem Reading.overruns_iff (reading : Reading separator seen offset text tokens) :
    Overruns offset tokens ↔
      (if offset = 0 then 1 else 0) < tokens.length ∧ maxOffset < offset + byteLength text := by
  induction reading with
  | done => simp [not_overruns_nil]
  | @token seen offset value rest others fits behind ih =>
      have positive : byteLength value.written ≠ 0 := fun zero =>
        TemplateToken.written_ne_nil fits.formed (byteLength_eq_zero_iff.mp zero)
      have further : offset + byteLength value.written ≠ 0 := by omega
      rw [overruns_cons_iff, ih, if_neg further, Fits, byteLength_append, List.length_cons]
      cases behind with
      | done =>
          simp only [List.length_nil, byteLength_nil]
          split <;> omega
      | token fits later =>
          simp only [List.length_cons]
          split <;> omega

theorem Reading.tokens?_eq_none_iff (usable : UsableSeparator separator)
    (reading : Reading separator seen offset text tokens) (start : Nat) :
    Lexer.tokens? ⟨start, offset, text⟩ separator seen = none ↔ Overruns offset tokens := by
  induction reading generalizing start with
  | done => simp [Lexer.tokens?_of_nil, not_overruns_nil]
  | @token seen offset value rest others fits behind ih =>
      rw [Lexer.tokens?_eq_none_iff_of_reads (Lexer.reads_of_precedes usable fits rfl), ih,
        overruns_cons_iff]

theorem tokens?_eq_none_iff_of_malformed (usable : UsableSeparator separator)
    (reading : Reading separator seen offset before tokens)
    (malformed : Malformed separator (seen || seesPrimary tokens) (offset + byteLength before)
      construct failure) (start : Nat) :
    Lexer.tokens? ⟨start, offset, before ++ construct⟩ separator seen = none ↔
      Overruns offset tokens ∨ Overflows (offset + byteLength before) construct failure := by
  induction reading generalizing start with
  | @done seen offset =>
      have refuses : Lexer.Refuses separator seen ⟨start, offset, construct⟩ failure :=
        Lexer.refuses_of_malformed usable rfl (Malformed.behind_nil_iff.mp malformed)
      simpa [not_overruns_nil] using Lexer.tokens?_eq_none_iff_of_refuses refuses
  | @token seen offset value rest others fits behind ih =>
      have ahead := fits.append (malformed.wordEnds usable)
      have split : value.written ++ rest ++ construct = value.written ++ (rest ++ construct) :=
        List.append_assoc _ _ _
      rw [Lexer.tokens?_eq_none_iff_of_reads (Lexer.reads_of_precedes usable ahead split),
        ih (Malformed.behind_cons_iff.mp malformed), overruns_cons_iff, or_assoc,
        byteLength_append, ← Nat.add_assoc]

end Runs

end CompositeKey
