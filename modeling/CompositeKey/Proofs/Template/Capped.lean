import CompositeKey.Proofs.Template.Lexemes
import CompositeKey.Proofs.Template.Overflow

/-!
# Capped ranges

Every range that is made in reading a template is the true range of a piece of it with
its ends moved down to the largest offset, and only in a template that is longer than
that a range may not fit.
-/

set_option autoImplicit false

namespace CompositeKey

/-- The range of the piece that stands behind `front`, each end moved down to the
largest offset. -/
structure TextRange.Caps (range : TextRange) (front piece : List Char) : Prop where
  start_eq : range.start = min (byteLength front) maxOffset
  stop_eq : range.stop = min (byteLength (front ++ piece)) maxOffset

/-- The ranges of an answer are those of its pieces with their ends capped: of each
token behind the tokens in front of it, and of the text that a repeating property is
refused for. -/
structure CapsPieces (text : List Char) (answer : Except TokenizeError (List Token)) : Prop where
  token : ∀ {before after : List Token} {token : Token},
    answer = .ok (before ++ token :: after) →
      text = writtenTokens ((before ++ token :: after).map Token.value) ∧
        token.range.Caps (writtenTokens (before.map Token.value)) token.value.written
  trailing : ∀ {name : String} {range : TextRange},
    answer = .error (.trailingRepeatingText name range) →
      ∃ front c trailing rest,
        text = front ++ '{' :: name.toList ++ repeatMarker ++ [c] ++ trailing ++ '}' :: rest ∧
          BraceFree trailing ∧
          range.Caps (front ++ '{' :: name.toList ++ repeatMarker ++ [c]) trailing

theorem caps_ofLength (front piece : List Char) :
    (TextRange.ofLength (byteLength front) (byteLength piece)).Caps front piece := by
  refine ⟨rfl, ?_⟩
  rw [byteLength_append]
  rfl

theorem PropertyBody.exists_of_trailing {body : PropertyBody} {name : String} {range : TextRange}
    (failed : body.token = .error (.trailingRepeatingText name range)) :
    ∃ separator trailing, body.text = name.toList ++ repeatMarker ++ [separator] ++ trailing ∧
      range = TextRange.ofLength
        (body.offset + byteLength (name.toList ++ repeatMarker ++ [separator]))
        (byteLength trailing) := by
  unfold token at failed
  split at failed
  · rename_i nameText after found
    obtain ⟨whole, _, _⟩ := splitAtMarker_eq_some_iff.mp found
    split at failed
    · exact absurd failed (body.scalarToken_ne_trailing name range)
    · obtain ⟨known, separator, c, trailing, named, rfl, other⟩ :=
        repeatingToken_eq_trailing_iff.mp ⟨name, range, failed⟩
      rw [repeatingToken_of_trailing named other] at failed
      cases failed
      obtain ⟨_, rfl⟩ := name_ok_iff.mp named
      have marker : byteLength repeatMarker = 3 := rfl
      refine ⟨separator, c :: trailing, by simp [whole], ?_⟩
      simp only [byteLength_append, byteLength_cons, byteLength_nil, marker, Nat.add_assoc,
        Nat.add_zero]
  · exact absurd failed (body.scalarToken_ne_trailing name range)

theorem Malformed.exists_of_trailing {separator : Option Char} {seen : Bool} {offset : Nat}
    {construct : List Char} {name : String} {range : TextRange}
    (malformed : Malformed separator seen offset construct (.trailingRepeatingText name range)) :
    ∃ c trailing rest,
      construct = '{' :: name.toList ++ repeatMarker ++ [c] ++ trailing ++ '}' :: rest ∧
        BraceFree trailing ∧ range = TextRange.ofLength
          (offset + byteLength ('{' :: name.toList ++ repeatMarker ++ [c]))
          (byteLength trailing) := by
  cases malformed with
  | @property text rest failure free refused =>
      obtain ⟨c, trailing, whole, made⟩ := PropertyBody.exists_of_trailing refused
      simp only at whole made
      have opening : '{'.utf8Size = 1 := rfl
      rw [whole] at free
      refine ⟨c, trailing, rest, by rw [whole]; simp, (braceFree_append.mp free).2, ?_⟩
      rw [made, List.cons_append, List.cons_append, byteLength_cons, opening, Nat.add_assoc]

theorem Reading.range_eq {separator : Option Char} {seen : Bool} {offset : Nat} {text : List Char}
    {before after : List Token} {token : Token}
    (reading : Reading separator seen offset text (before ++ token :: after)) :
    token.range = TextRange.ofLength
      (offset + byteLength (writtenTokens (before.map Token.value)))
      (byteLength token.value.written) := by
  induction before generalizing seen offset text with
  | nil =>
      cases reading
      rfl
  | cons first others ih =>
      cases reading with
      | token fits behind =>
          rw [ih behind, List.map_cons, writtenTokens_cons, byteLength_append, Nat.add_assoc]

theorem capsPieces_tokenize (template : String) (separator : Option Char) :
    CapsPieces template.toList (tokenize template separator) := by
  constructor
  · intro before after token run
    obtain ⟨_, _, reading⟩ := tokenize_eq_ok_iff.mp run
    refine ⟨reading.written.symm, ?_⟩
    rw [reading.range_eq, Nat.zero_add]
    exact caps_ofLength _ _
  · intro name range failed
    rcases tokenize_eq_error_iff.mp failed with
      ⟨_, other⟩ | ⟨_, _, _, _, other⟩ | ⟨_, before, construct, tokens, fails⟩
    · cases other
    · cases other
    · obtain ⟨c, trailing, rest, rfl, free, rfl⟩ := fails.malformed.exists_of_trailing
      refine ⟨before, c, trailing, rest, by rw [fails.split]; simp, free, ?_⟩
      rw [← byteLength_append]
      have front : before ++ ('{' :: name.toList ++ repeatMarker ++ [c]) =
          before ++ '{' :: name.toList ++ repeatMarker ++ [c] := by simp
      rw [front]
      exact caps_ofLength _ _

/-! ## Templates -/

section Templates

variable {template : String} {separator : Option Char}

theorem eq_of_tokenize? {answer : Except TokenizeError (List Token)}
    (run : tokenize? template separator = some answer) : answer = tokenize template separator := by
  unfold tokenize? at run
  unfold tokenize
  split at run
  · rename_i empty
    rw [if_pos empty, Option.some.inj run]
  · rename_i present
    rw [if_neg present]
    cases separator with
    | none => exact Lexer.eq_of_tokens? run
    | some c =>
        simp only at run ⊢
        split at run
        · rename_i symbol
          rw [if_pos symbol]
          exact Lexer.eq_of_tokens? run
        · rename_i invalid
          rw [if_neg invalid, Option.some.inj run]

theorem tokenize?_of_usable (usable : UsableSeparator separator) (nonempty : template ≠ "") :
    tokenize? template separator = (Lexer.ofText template.toList).tokens? separator false := by
  have present : template.isEmpty = false := by
    simpa [String.isEmpty_iff] using nonempty
  cases separator with
  | none => simp [tokenize?, present]
  | some c => simp [tokenize?, present, usable c rfl]

/-- A range that does not fit is made for a token, or for the construct that reading
fails at. -/
inductive ComesToOverflow (separator : Option Char) (text : List Char) : Prop where
  | inTokens {tokens : List Token} (reading : Reading separator false 0 text tokens)
      (overruns : Overruns 0 tokens)
  | inFailure {before construct : List Char} {tokens : List Token} {failure : TokenizeError}
      (fails : FailsAt separator text before construct tokens failure)
      (reached : Overruns 0 tokens ∨ Overflows (byteLength before) construct failure)

theorem tokens?_eq_none_iff_of_failsAt {text before construct : List Char} {tokens : List Token}
    {failure : TokenizeError} (usable : UsableSeparator separator)
    (fails : FailsAt separator text before construct tokens failure) :
    (Lexer.ofText text).tokens? separator false = none ↔
      Overruns 0 tokens ∨ Overflows (byteLength before) construct failure := by
  have malformed : Malformed separator (false || seesPrimary tokens) (0 + byteLength before)
      construct failure := by
    rw [Bool.false_or, Nat.zero_add]
    exact fails.malformed
  rw [Lexer.ofText, fails.split, tokens?_eq_none_iff_of_malformed usable fails.reading malformed,
    Nat.zero_add]

theorem tokenize?_eq_none_iff :
    tokenize? template separator = none ↔
      UsableSeparator separator ∧ ComesToOverflow separator template.toList := by
  rcases usableSeparator_or_exists separator with usable | ⟨c, rfl, invalid⟩
  · simp only [usable, true_and]
    by_cases empty : template = ""
    · subst empty
      refine ⟨fun absent => (by cases absent), ?_⟩
      rintro (⟨reading, overruns⟩ | ⟨fails, _⟩)
      · exact absurd (reading.overruns_iff.mp overruns).2 (by decide)
      · have none := fails.split
        exact absurd (List.append_eq_nil_iff.mp none.symm).2 fails.malformed.ne_nil
    · have nonempty : template.toList ≠ [] := by simpa using empty
      rw [tokenize?_of_usable usable empty]
      constructor
      · intro absent
        cases run : tokenize template separator with
        | ok tokens =>
            obtain ⟨_, _, reading⟩ := tokenize_eq_ok_iff.mp run
            exact .inTokens reading ((reading.tokens?_eq_none_iff usable 0).mp absent)
        | error failure =>
            obtain ⟨before, construct, tokens, fails⟩ :=
              exists_failsAt_of_tokenize usable empty run
            exact .inFailure fails ((tokens?_eq_none_iff_of_failsAt usable fails).mp absent)
      · rintro (⟨reading, overruns⟩ | ⟨fails, reached⟩)
        · exact (reading.tokens?_eq_none_iff usable 0).mpr overruns
        · exact (tokens?_eq_none_iff_of_failsAt usable fails).mpr reached
  · have unusable : ¬ UsableSeparator (some c) := fun usable => by
      rw [usable c rfl] at invalid
      cases invalid
    simp only [unusable, false_and, iff_false, tokenize?, invalid]
    split <;> simp

theorem Overflows.lt {offset : Nat} {construct : List Char} {failure : TokenizeError}
    {separator : Option Char} {seen : Bool}
    (malformed : Malformed separator seen offset construct failure)
    (overflows : Overflows offset construct failure) :
    maxOffset < offset + byteLength construct := by
  cases malformed with
  | @duplicate c rest configured again =>
      have past := (lt_of_not_fits overflows).2.2
      rw [byteLength_cons]
      omega
  | unterminated free => exact overflows.elim
  | @nested text rest free =>
      rw [Overflows, List.cons_append, Lexer.insideLength_of_brace '{' free rfl] at overflows
      have past := (lt_of_not_fits overflows).2.2
      rw [byteLength_append, byteLength_openBrace_cons, byteLength_openBrace_cons]
      omega
  | @property text rest failure free refused =>
      have length : byteLength ('{' :: text ++ '}' :: rest) =
          byteLength text + 2 + byteLength rest := by
        rw [← byteLength_braced, ← byteLength_append]
        simp
      have inside : insideLength ('{' :: text ++ '}' :: rest) = byteLength text :=
        Lexer.insideLength_of_brace '}' free rfl rest
      have past : ¬ Fits offset (byteLength text + 2) ∨
          maxOffset < offset + 1 + byteLength text := by
        rw [← inside]
        cases PropertyBody.refusal_of_token refused with
        | trailingText name split => exact overflows
        | _ => exact .inl overflows
      rw [length]
      rcases past with unfit | past
      · have past := (lt_of_not_fits unfit).2.2
        omega
      · omega

/-- Only in a template that is longer than the largest offset a range may not fit. -/
theorem ComesToOverflow.lt {text : List Char} (reached : ComesToOverflow separator text) :
    maxOffset < byteLength text := by
  rcases reached with ⟨reading, overruns⟩ | ⟨fails, overruns | overflows⟩
  · have past := (reading.overruns_iff.mp overruns).2
    omega
  · have past := (fails.reading.overruns_iff.mp overruns).2
    rw [fails.split, byteLength_append]
    omega
  · have past := overflows.lt fails.malformed
    rw [fails.split, byteLength_append]
    exact past

theorem tokenize?_of_le (small : byteLength template.toList ≤ maxOffset) :
    tokenize? template separator = some (tokenize template separator) := by
  cases run : tokenize? template separator with
  | none =>
      have past := (tokenize?_eq_none_iff.mp run).2.lt
      omega
  | some answer => rw [eq_of_tokenize? run]

theorem range?_of_mem_lex {text : List Char} {lexeme : Lexeme} (member : lexeme ∈ lex text) :
    ∃ front rest, text = front ++ (lexeme.text ++ rest) ∧ lexeme.offset = byteLength front ∧
      (lexeme.range? = none ↔ ¬ Fits (byteLength front) (byteLength lexeme.text)) ∧
      ∀ range ∈ lexeme.range?, range.Caps front lexeme.text := by
  obtain ⟨front, rest, split, place, _⟩ := (mem_lex_iff.mp member).exists_split
  refine ⟨front, rest, split, place, ?_, ?_⟩
  · rw [Lexeme.range?, place, ofLength?_eq_none_iff]
  · intro range made
    rw [Option.mem_def, Lexeme.range?, place] at made
    rw [TextRange.eq_of_ofLength? made]
    exact caps_ofLength front lexeme.text

theorem propertyBody?_of_text {front inside rest : List Char} (free : BraceFree inside) :
    (Lexer.propertyBody? ⟨byteLength front, byteLength front + 1, inside ++ '}' :: rest⟩ = none ↔
        ¬ Fits (byteLength front) (byteLength inside + 2)) ∧
      ∀ body after, Lexer.propertyBody?
          ⟨byteLength front, byteLength front + 1, inside ++ '}' :: rest⟩ =
            some (.ok (body, after)) →
        body.text = inside ∧ body.range.Caps front ('{' :: inside ++ ['}']) := by
  refine ⟨Lexer.propertyBody?_eq_none_iff_of_rest free rfl, ?_⟩
  intro body after read
  have total : Lexer.propertyBody
      ⟨byteLength front, byteLength front + 1, inside ++ '}' :: rest⟩ = _ :=
    Lexer.propertyBody_of_rest free rfl
  have same := (Lexer.eq_of_propertyBody? read).trans total
  simp only [Except.ok.injEq, Prod.mk.injEq] at same
  obtain ⟨rfl, _⟩ := same
  refine ⟨rfl, ?_⟩
  rw [← byteLength_braced]
  exact caps_ofLength front ('{' :: inside ++ ['}'])

/-- A range is made exactly where the piece fits, and is then the true one with its ends
capped.  So are the ranges of lexemes and property bodies, and reading a template has no
answer exactly when it comes to a piece that does not fit, which a template that is no
longer than the largest offset never does. -/
theorem ranges_are_capped_where_they_fit (start length : Nat) (template : String)
    (separator : Option Char) :
    (∀ range, TextRange.ofLength? start length = some range ↔
      Fits start length ∧ range.start = min start maxOffset ∧
        range.stop = min (start + length) maxOffset) ∧
    (∀ lexeme ∈ lex template.toList, ∃ front rest,
      template.toList = front ++ (lexeme.text ++ rest) ∧ lexeme.offset = byteLength front ∧
        (lexeme.range? = none ↔ ¬ Fits (byteLength front) (byteLength lexeme.text)) ∧
        ∀ range ∈ lexeme.range?, range.Caps front lexeme.text) ∧
    (∀ front inside rest, template.toList = front ++ '{' :: (inside ++ '}' :: rest) →
      BraceFree inside →
        (Lexer.propertyBody? ⟨byteLength front, byteLength front + 1, inside ++ '}' :: rest⟩ =
            none ↔ ¬ Fits (byteLength front) (byteLength inside + 2)) ∧
          ∀ body after, Lexer.propertyBody?
              ⟨byteLength front, byteLength front + 1, inside ++ '}' :: rest⟩ =
                some (.ok (body, after)) →
            body.text = inside ∧ body.range.Caps front ('{' :: inside ++ ['}'])) ∧
    (tokenize? template separator = none ↔
      UsableSeparator separator ∧ ComesToOverflow separator template.toList) ∧
    (∀ answer, tokenize? template separator = some answer →
      answer = tokenize template separator ∧ CapsPieces template.toList answer) ∧
    (byteLength template.toList ≤ maxOffset →
      tokenize? template separator = some (tokenize template separator)) := by
  refine ⟨fun _ => ofLength?_eq_some_iff_ends, fun _ => range?_of_mem_lex,
    fun _ _ _ _ free => propertyBody?_of_text free, tokenize?_eq_none_iff, ?_, tokenize?_of_le⟩
  intro answer run
  obtain rfl := eq_of_tokenize? run
  exact ⟨rfl, capsPieces_tokenize template separator⟩

theorem byteLength_replicate (count : Nat) (c : Char) :
    byteLength (List.replicate count c) = count * c.utf8Size := by
  induction count with
  | zero => simp
  | succ count ih =>
      rw [List.replicate_succ, byteLength_cons, ih, Nat.succ_mul, Nat.add_comm]

theorem tokenize?_of_ok {tokens : List Token} (run : tokenize template separator = .ok tokens)
    (many : 1 < tokens.length) (large : maxOffset < byteLength template.toList) :
    tokenize? template separator = none := by
  obtain ⟨usable, _, reading⟩ := tokenize_eq_ok_iff.mp run
  exact tokenize?_eq_none_iff.mpr
    ⟨usable, .inTokens reading (reading.overruns_iff.mpr ⟨many, by omega⟩)⟩

theorem tokenize?_replicate_hash {count : Nat} (large : maxOffset < count) :
    tokenize? (String.ofList (List.replicate count '#')) none = none := by
  have positive : 1 < count := Nat.lt_trans (by decide) large
  have canonical : Canonical none (List.replicate count (.delimiter '#')) := by
    refine ⟨?_, ?_, ?_, ?_⟩
    · intro empty
      have none := congrArg List.length empty
      rw [List.length_replicate, List.length_nil] at none
      omega
    · intro value member
      obtain rfl := List.eq_of_mem_replicate member
      exact ⟨by decide +kernel, by decide, by decide⟩
    · exact List.isChain_replicate_of_rel count fun constant => by cases constant
    · rw [List.countP_replicate]
      exact Nat.zero_le 1
  have written : writtenTokens (List.replicate count (.delimiter '#')) =
      List.replicate count '#' := by
    rw [writtenTokens, List.flatMap_replicate]
    exact List.flatten_replicate_singleton
  obtain ⟨tokens, run, same⟩ := exists_tokenize_of_canonical usableSeparator_none canonical
  rw [written] at run
  have many : tokens.length = count := by
    rw [← List.length_map, same, List.length_replicate]
  refine tokenize?_of_ok run (by omega) ?_
  have width : '#'.utf8Size = 1 := rfl
  rw [String.toList_ofList, byteLength_replicate, width, Nat.mul_one]
  exact large

/-- A range of one byte at the largest offset cannot be made, nor can a template be read
that is one byte longer than that and all delimiters. -/
theorem ofLength?_at_maxOffset :
    (¬ ∃ range, TextRange.ofLength? 4294967295 1 = some range ∧
      range.start = min 4294967295 maxOffset ∧ range.stop = min (4294967295 + 1) maxOffset) ∧
    tokenize? (String.ofList (List.replicate 4294967296 '#')) none = none := by
  have unfit : ¬ Fits 4294967295 1 := by simp [Fits, maxOffset]
  constructor
  · rintro ⟨range, made, _⟩
    exact unfit (ofLength?_eq_some_iff_ends.mp made).1
  · exact tokenize?_replicate_hash (by decide)

end Templates

end CompositeKey
