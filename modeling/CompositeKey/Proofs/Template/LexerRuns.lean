import CompositeKey.Proofs.Template.Lexemes
import CompositeKey.Proofs.Template.Overflow
import CompositeKey.Template.Calls

/-!
# Runs of a lexer

Whatever calls a lexer takes, it stands behind the text that its answers have taken,
and a call that is refused might as well not have been made.
-/

set_option autoImplicit false

namespace CompositeKey

structure Lexer.Accounts (lexer : Lexer) (text : List Char) (answers : List LexerAnswer) :
    Prop where
  ordered : lexer.start ≤ lexer.stop
  inText : lexer.stop ≤ byteLength text
  boundaries : IsBoundary text lexer.start ∧ IsBoundary text lexer.stop
  /-- The answers have taken what stands in front of the end of the last piece. -/
  taken : splitAtByte? text lexer.stop = some (answers.flatMap LexerAnswer.taken, lexer.rest)
  /-- The lexemes of the rest make the text whole. -/
  drained : answers.flatMap LexerAnswer.taken ++ lexer.drain.1.flatMap Lexeme.text = text

namespace Lexer

/-- A lexer stands in a text behind the text that was taken, the piece that it read last
at the end of that.  Only at the start and at the end of a text that piece is empty. -/
structure StandsBehind (lexer : Lexer) (text taken : List Char) : Prop where
  split : text = taken ++ lexer.rest
  stop_eq : lexer.stop = byteLength taken
  start_eq : ∃ before piece, taken = before ++ piece ∧ lexer.start = byteLength before
  begun : lexer.start < lexer.stop ∨ lexer.start = 0 ∨ lexer.rest = []

variable {lexer after last : Lexer} {text taken : List Char} {lexeme : Lexeme}
  {body : PropertyBody} {failure : TokenizeError} {calls more : List LexerCall}

theorem offset_of_next (read : lexer.next = (some lexeme, after)) :
    lexeme.offset = lexer.stop ∧ after.start = lexer.stop := by
  obtain ⟨c, rest, remaining⟩ := exists_cons_of_next read
  rw [next_of_cons remaining] at read
  cases read
  exact ⟨rfl, rfl⟩

theorem standsBehind_ofText (text : List Char) : (ofText text).StandsBehind text [] :=
  ⟨rfl, rfl, ⟨[], [], rfl, rfl⟩, .inr (.inl rfl)⟩

namespace StandsBehind

theorem start_le (stands : lexer.StandsBehind text taken) : lexer.start ≤ lexer.stop := by
  obtain ⟨before, piece, rfl, start⟩ := stands.start_eq
  rw [start, stands.stop_eq, byteLength_append]
  omega

theorem next (stands : lexer.StandsBehind text taken) (read : lexer.next = (some lexeme, after)) :
    after.StandsBehind text (taken ++ lexeme.text) := by
  have split := text_append_of_next read
  obtain ⟨c, rest, remaining⟩ := exists_cons_of_next read
  have nonempty := LexemeKind.text_ne_nil_of_read c rest
  rw [next_of_cons remaining] at read
  cases read
  have positive : byteLength (LexemeKind.read c rest).1.text ≠ 0 := fun zero =>
    nonempty (byteLength_eq_zero_iff.mp zero)
  refine ⟨?_, ?_, ⟨taken, _, rfl, stands.stop_eq⟩, .inl ?_⟩
  · rw [List.append_assoc, ← split]
    exact stands.split
  · rw [byteLength_append, ← stands.stop_eq]
    rfl
  · exact Nat.lt_add_of_pos_right (Nat.pos_of_ne_zero positive)

theorem ended (stands : lexer.StandsBehind text taken) (read : lexer.next = (none, after)) :
    after.StandsBehind text taken := by
  have remaining := next_eq_none_iff.mp (congrArg Prod.fst read)
  rw [next_of_nil remaining] at read
  cases read
  have whole := stands.split
  rw [remaining] at whole
  exact ⟨whole, stands.stop_eq, ⟨taken, [], (List.append_nil taken).symm, stands.stop_eq⟩,
    .inr (.inr rfl)⟩

theorem propertyBody (stands : lexer.StandsBehind text taken)
    (read : lexer.propertyBody = .ok (body, after)) :
    after.StandsBehind text (taken ++ (body.text ++ ['}'])) := by
  obtain ⟨_, split, _, _, start, stop⟩ := propertyBody_ok_iff.mp read
  obtain ⟨before, piece, whole, begins⟩ := stands.start_eq
  have closing : byteLength ['}'] = 1 := rfl
  refine ⟨?_, ?_, ⟨before, piece ++ (body.text ++ ['}']), ?_, start.trans begins⟩, .inl ?_⟩
  · rw [stands.split, split]
    simp
  · rw [stop, stands.stop_eq, byteLength_append, byteLength_append, closing, Nat.add_assoc]
  · rw [whole, List.append_assoc]
  · have ordered := stands.start_le
    omega

theorem call (stands : lexer.StandsBehind text taken) (call : LexerCall) :
    (lexer.call call).2.StandsBehind text (taken ++ (lexer.call call).1.taken) := by
  cases call with
  | next =>
      cases read : lexer.next with
      | mk found after =>
          cases found with
          | none =>
              simp only [Lexer.call, read, LexerAnswer.taken, List.append_nil]
              exact stands.ended read
          | some lexeme =>
              simp only [Lexer.call, read, LexerAnswer.taken]
              exact stands.next read
  | propertyBody =>
      cases read : lexer.propertyBody with
      | error failure =>
          simpa only [Lexer.call, read, answerBody, LexerAnswer.taken, List.append_nil] using stands
      | ok found =>
          simp only [Lexer.call, read, answerBody, LexerAnswer.taken]
          exact stands.propertyBody read

/-- In a text that is no longer than the largest offset a property body has a range
wherever a lexer stands. -/
theorem propertyBody?_eq (stands : lexer.StandsBehind text taken)
    (small : byteLength text ≤ maxOffset) : lexer.propertyBody? = some lexer.propertyBody := by
  rw [stands.split, byteLength_append, ← stands.stop_eq] at small
  cases made : lexer.propertyBody? with
  | some answer => rw [eq_of_propertyBody? made]
  | none =>
      cases read : lexer.propertyBody with
      | ok found =>
          obtain ⟨_, split, _⟩ := propertyBody_ok_iff.mp read
          have closing : '}'.utf8Size = 1 := rfl
          have unfit := (propertyBody?_eq_none_iff_of_ok read).mp made
          have past := lt_of_not_fits unfit
          rw [split, byteLength_append, byteLength_cons, closing] at small
          rcases stands.begun with behind | first | ended
          · omega
          · omega
          · rw [ended] at split
            cases (List.append_eq_nil_iff.mp split.symm).2
      | error failure =>
          rcases propertyBody_error_cases read with ⟨free, _⟩ | ⟨inside, others, free, split, _⟩
          · rw [propertyBody?_of_braceFree free] at made
            cases made
          · have opening : '{'.utf8Size = 1 := rfl
            have past := lt_of_not_fits ((propertyBody?_eq_none_iff_of_nested free split).mp made)
            rw [split, byteLength_append, byteLength_cons, opening] at small
            omega

theorem call?_eq (stands : lexer.StandsBehind text taken) (small : byteLength text ≤ maxOffset)
    (call : LexerCall) : lexer.call? call = some (lexer.call call) := by
  cases call with
  | next => rfl
  | propertyBody => rw [call?, stands.propertyBody?_eq small]; rfl

end StandsBehind

theorem eq_of_call? {call : LexerCall} {result : LexerAnswer × Lexer}
    (made : lexer.call? call = some result) : result = lexer.call call := by
  cases call with
  | next => exact (Option.some.inj made).symm
  | propertyBody =>
      obtain ⟨answer, read, rfl⟩ := Option.map_eq_some_iff.mp made
      rw [Lexer.call, eq_of_propertyBody? read]

/-! ## Runs -/

theorem run_cons (call : LexerCall) :
    lexer.run (call :: more) =
      ((lexer.call call).1 :: ((lexer.call call).2.run more).1, ((lexer.call call).2.run more).2) :=
  rfl

theorem run_append (calls more : List LexerCall) :
    lexer.run (calls ++ more) =
      ((lexer.run calls).1 ++ ((lexer.run calls).2.run more).1,
        ((lexer.run calls).2.run more).2) := by
  induction calls generalizing lexer with
  | nil => rfl
  | cons call rest ih => rw [List.cons_append, run_cons, run_cons, ih]; rfl

theorem run_of_refused (refused : lexer.propertyBody = .error failure) (more : List LexerCall) :
    lexer.run (.propertyBody :: more) =
      (.refused failure :: (lexer.run more).1, (lexer.run more).2) := by
  simp only [run_cons, call, refused, answerBody]

theorem StandsBehind.run (stands : lexer.StandsBehind text taken) (calls : List LexerCall) :
    (lexer.run calls).2.StandsBehind text
      (taken ++ (lexer.run calls).1.flatMap LexerAnswer.taken) := by
  induction calls generalizing lexer taken with
  | nil => simpa [Lexer.run] using stands
  | cons call rest ih =>
      have behind := ih (stands.call call)
      rw [List.append_assoc, ← List.flatMap_cons] at behind
      exact behind

theorem StandsBehind.run?_eq (stands : lexer.StandsBehind text taken)
    (small : byteLength text ≤ maxOffset) (calls : List LexerCall) :
    lexer.run? calls = some (lexer.run calls) := by
  induction calls generalizing lexer taken with
  | nil => rfl
  | cons call rest ih =>
      rw [run?, stands.call?_eq small call]
      simp only [Option.bind_eq_bind, Option.bind_some, ih (stands.call call)]
      rfl

theorem eq_of_run? {result : List LexerAnswer × Lexer} (made : lexer.run? calls = some result) :
    result = lexer.run calls := by
  induction calls generalizing lexer result with
  | nil => exact (Option.some.inj made).symm
  | cons call rest ih =>
      obtain ⟨first, firstMade, made⟩ := Option.bind_eq_some_iff.mp made
      obtain ⟨others, othersMade, same⟩ := Option.bind_eq_some_iff.mp made
      cases same
      rw [run_cons, ← eq_of_call? firstMade, ← ih othersMade]

theorem StandsBehind.stop_le_run (stands : lexer.StandsBehind text taken)
    (calls : List LexerCall) : lexer.stop ≤ (lexer.run calls).2.stop := by
  rw [stands.stop_eq, (stands.run calls).stop_eq, byteLength_append]
  exact Nat.le_add_right ..

theorem StandsBehind.accounts {answers : List LexerAnswer}
    (stands : lexer.StandsBehind text (answers.flatMap LexerAnswer.taken)) :
    lexer.Accounts text answers := by
  obtain ⟨before, piece, whole, start⟩ := stands.start_eq
  have split := stands.split
  refine ⟨stands.start_le, ?_, ⟨?_, ?_⟩, ?_, ?_⟩
  · rw [stands.stop_eq, split, byteLength_append]
    exact Nat.le_add_right ..
  · rw [start, split, whole, List.append_assoc]
    exact isBoundary_append before _
  · rw [stands.stop_eq, split]
    exact isBoundary_append _ lexer.rest
  · exact splitAtByte?_eq_some_iff.mpr ⟨split, stands.stop_eq.symm⟩
  · rw [(LongestMatches.drain lexer).text_eq]
    exact split.symm

theorem exists_of_run_property
    (read : lexer.run [.next, .propertyBody] = ([.lexeme lexeme, .body body], last)) :
    ∃ after, lexer.next = (some lexeme, after) ∧ after.propertyBody = .ok (body, last) := by
  rw [run_cons, run_cons] at read
  simp only [run, Prod.mk.injEq, List.cons.injEq, and_true] at read
  obtain ⟨⟨first, second⟩, reached⟩ := read
  cases taken : lexer.next with
  | mk found after =>
      cases found with
      | none =>
          simp only [call, taken] at first
          cases first
      | some found =>
          simp only [call, taken, LexerAnswer.lexeme.injEq] at first second reached
          subst first
          cases bodyRead : after.propertyBody with
          | error failure =>
              simp only [bodyRead, answerBody] at second
              cases second
          | ok answer =>
              simp only [bodyRead, answerBody, LexerAnswer.body.injEq] at second reached
              subst second reached
              exact ⟨after, rfl, bodyRead⟩

theorem StandsBehind.property {front : List Char} (stands : lexer.StandsBehind text front)
    (small : byteLength text ≤ maxOffset)
    (read : lexer.run [.next, .propertyBody] = ([.lexeme lexeme, .body body], last))
    (opens : lexeme.kind = .openBrace) :
    body.range.start = lexeme.offset ∧ body.range.stop = last.stop ∧
      slice? text body.range = some ('{' :: body.text ++ ['}']) ∧ BraceFree body.text := by
  obtain ⟨after, taken, bodyRead⟩ := exists_of_run_property read
  obtain ⟨free, split, _, range, _, stop⟩ := propertyBody_ok_iff.mp bodyRead
  obtain ⟨offset, start⟩ := offset_of_next taken
  have brace : lexeme.text = ['{'] := by rw [Lexeme.text, opens]; rfl
  have behind := stands.next taken
  rw [brace] at behind
  have whole : text = front ++ ('{' :: body.text ++ ['}']) ++ last.rest := by
    rw [behind.split, split]
    simp
  rw [start, stands.stop_eq, ← byteLength_braced] at range
  have reached : last.stop = byteLength front + byteLength ('{' :: body.text ++ ['}']) := by
    have opening : byteLength ['{'] = 1 := rfl
    rw [stop, behind.stop_eq, byteLength_append, byteLength_braced, opening]
    omega
  rw [whole] at small ⊢
  have within : last.stop ≤ maxOffset := by
    rw [byteLength_append, byteLength_append] at small
    omega
  refine ⟨?_, ?_, ?_, free⟩
  · rw [range, offset, stands.stop_eq]
    exact clampOffset_of_le (by omega)
  · rw [range]
    exact (clampOffset_of_le (by omega)).trans reached.symm
  · rw [range]
    exact slice?_ofLength small

/-- Whatever calls a lexer takes of a text, the piece that it read last stands in the text,
and its answers have taken what stands in front of the end of that piece, so that the
lexemes of the rest make the text whole.  More calls never move that end back, and a body
that is refused changes no other answer.  In a text that is no longer than the largest
offset every call has an answer, and the range of a body behind an opening brace is that
of the whole property. -/
theorem calls_take_text_in_order {answers : List LexerAnswer}
    (reached : (ofText text).run calls = (answers, lexer)) :
    lexer.Accounts text answers ∧
    (∀ more, (ofText text).run (calls ++ more) =
        (answers ++ (lexer.run more).1, (lexer.run more).2) ∧
      lexer.stop ≤ (lexer.run more).2.stop) ∧
    (∀ failure, lexer.propertyBody = .error failure →
      ∀ more, (ofText text).run (calls ++ .propertyBody :: more) =
        (answers ++ .refused failure :: (lexer.run more).1, (lexer.run more).2)) ∧
    (∀ result, (ofText text).run? calls = some result → result = (answers, lexer)) ∧
    (byteLength text ≤ maxOffset → (ofText text).run? calls = some (answers, lexer) ∧
      ∀ lexeme body last, lexer.run [.next, .propertyBody] = ([.lexeme lexeme, .body body], last) →
        lexeme.kind = .openBrace →
          body.range.start = lexeme.offset ∧ body.range.stop = last.stop ∧
            slice? text body.range = some ('{' :: body.text ++ ['}']) ∧ BraceFree body.text) := by
  have fresh := standsBehind_ofText text
  have stands : lexer.StandsBehind text (answers.flatMap LexerAnswer.taken) := by
    have run := fresh.run calls
    rwa [reached] at run
  refine ⟨stands.accounts, ?_, ?_, ?_, ?_⟩
  · intro more
    rw [run_append, reached]
    exact ⟨rfl, stands.stop_le_run more⟩
  · intro failure refused more
    rw [run_append, reached, run_of_refused refused]
  · intro result made
    rw [eq_of_run? made, reached]
  · intro small
    refine ⟨by rw [fresh.run?_eq small, reached], ?_⟩
    intro lexeme body last read opens
    exact stands.property small read opens

theorem calls_take_accented_property :
    (ofText "é{A}\x7bB".toList).run [.propertyBody, .next] =
        ([.refused (.nestedPropertyOpen (.ofLength 2 1)), .lexeme ⟨.word ['é'], 0⟩],
          ⟨0, 2, "{A}\x7bB".toList⟩) ∧
      Lexer.Accounts ⟨0, 2, "{A}\x7bB".toList⟩ "é{A}\x7bB".toList
        [.refused (.nestedPropertyOpen (.ofLength 2 1)), .lexeme ⟨.word ['é'], 0⟩] ∧
      (ofText "é{A}\x7bB".toList).run [.propertyBody, .next, .propertyBody, .next, .propertyBody] =
        ([.refused (.nestedPropertyOpen (.ofLength 2 1)), .lexeme ⟨.word ['é'], 0⟩,
            .refused (.nestedPropertyOpen (.ofLength 2 1)), .lexeme ⟨.openBrace, 2⟩,
            .body ⟨['A'], 3, .ofLength 2 3⟩],
          ⟨2, 5, "\x7bB".toList⟩) ∧
      slice? "é{A}\x7bB".toList (.ofLength 2 3) = some "{A}".toList := by
  have reached : (ofText "é{A}\x7bB".toList).run [.propertyBody, .next] =
      ([.refused (.nestedPropertyOpen (.ofLength 2 1)), .lexeme ⟨.word ['é'], 0⟩],
        ⟨0, 2, "{A}\x7bB".toList⟩) := by
    decide +kernel
  have refused : Lexer.propertyBody ⟨0, 2, "{A}\x7bB".toList⟩ =
      .error (.nestedPropertyOpen (.ofLength 2 1)) := by
    decide +kernel
  have read : Lexer.run ⟨0, 2, "{A}\x7bB".toList⟩ [.next, .propertyBody] =
      ([.lexeme ⟨.openBrace, 2⟩, .body ⟨['A'], 3, .ofLength 2 3⟩], ⟨2, 5, "\x7bB".toList⟩) := by
    decide +kernel
  obtain ⟨accounts, _, unchanged, _, answered⟩ := calls_take_text_in_order reached
  obtain ⟨_, property⟩ := answered (by decide +kernel)
  have again := unchanged _ refused [.next, .propertyBody]
  rw [read] at again
  exact ⟨reached, accounts, again, (property _ _ _ read rfl).2.2.1⟩

end Lexer

end CompositeKey
