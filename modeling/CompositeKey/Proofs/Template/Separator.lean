import CompositeKey.Proofs.Template.Capped
import CompositeKey.Proofs.Template.Failure

/-!
# Configuring a primary separator

A separator changes nothing about where the tokens of a template begin and end.
Its first occurrence among the delimiters becomes the primary one, and a second
occurrence is an error, unless a malformed property stands in front of it.
-/

set_option autoImplicit false

namespace CompositeKey

def delimitersOf (c : Char) (tokens : List Token) : List Token :=
  tokens.filter fun token => token.value = .delimiter c

def Token.asPrimary (c : Char) (token : Token) : Token :=
  if token.value = .delimiter c then ⟨.primaryDelimiter c, token.range⟩ else token

/-- What becomes of tokens that were read without a separator when `c` is one.
`seen` tells whether it has come before. -/
def relabel (c : Char) (seen : Bool) : List Token → Except TokenizeError (List Token)
  | [] => .ok []
  | token :: rest =>
      if token.value = .delimiter c then
        if seen then .error (.duplicatePrimarySeparator c token.range)
        else (relabel c true rest).map (⟨.primaryDelimiter c, token.range⟩ :: ·)
      else (relabel c seen rest).map (token :: ·)

section Relabel

variable {c : Char} {token : Token} {rest : List Token}

theorem delimitersOf_cons_of_eq (found : token.value = .delimiter c) :
    delimitersOf c (token :: rest) = token :: delimitersOf c rest := by
  simp [delimitersOf, found]

theorem delimitersOf_cons_of_ne (other : token.value ≠ .delimiter c) :
    delimitersOf c (token :: rest) = delimitersOf c rest := by
  simp [delimitersOf, other]

theorem relabel_after_primary (c : Char) (tokens : List Token) :
    relabel c true tokens =
      match delimitersOf c tokens with
      | [] => .ok tokens
      | second :: _ => .error (.duplicatePrimarySeparator c second.range) := by
  induction tokens with
  | nil => rfl
  | cons token rest ih =>
      by_cases found : token.value = .delimiter c
      · rw [relabel, if_pos found, if_pos rfl, delimitersOf_cons_of_eq found]
      · rw [relabel, if_neg found, ih, delimitersOf_cons_of_ne found]
        cases delimitersOf c rest <;> rfl

theorem map_asPrimary_of_absent {tokens : List Token}
    (absent : delimitersOf c tokens = []) : tokens.map (Token.asPrimary c) = tokens := by
  have others := List.filter_eq_nil_iff.mp absent
  conv_rhs => rw [← List.map_id tokens]
  apply List.map_congr_left
  intro token member
  have other : token.value ≠ .delimiter c := by simpa using others token member
  simp [Token.asPrimary, other]

theorem relabel_from_start (c : Char) (tokens : List Token) :
    relabel c false tokens =
      match delimitersOf c tokens with
      | [] => .ok tokens
      | [_] => .ok (tokens.map (Token.asPrimary c))
      | _ :: second :: _ => .error (.duplicatePrimarySeparator c second.range) := by
  induction tokens with
  | nil => rfl
  | cons token rest ih =>
      by_cases found : token.value = .delimiter c
      · have relabelled : token.asPrimary c = ⟨.primaryDelimiter c, token.range⟩ := if_pos found
        rw [relabel, if_pos found, if_neg Bool.false_ne_true, relabel_after_primary,
          delimitersOf_cons_of_eq found]
        cases behind : delimitersOf c rest with
        | nil =>
            rw [List.map_cons, relabelled, map_asPrimary_of_absent behind]
            rfl
        | cons second others => rfl
      · have same : token.asPrimary c = token := if_neg found
        rw [relabel, if_neg found, ih, delimitersOf_cons_of_ne found]
        match delimitersOf c rest with
        | [] => rfl
        | [_] =>
            rw [List.map_cons, same]
            rfl
        | _ :: _ :: _ => rfl

end Relabel

section Readings

variable {c : Char} {seen before : Bool} {offset : Nat} {value : TemplateToken}
  {rest front : List Char} {tokens others : List Token} {failure : TokenizeError}

theorem Precedes.configured (fits : Precedes none before value rest)
    (other : value ≠ .delimiter c) : Precedes (some c) seen value rest := by
  cases value with
  | constant text =>
      exact ⟨fits.formed, fits.ends, by simp [TemplateToken.isPrimaryDelimiter]⟩
  | delimiter d =>
      obtain ⟨letter, opens, _⟩ := fits.formed
      have different : some c ≠ some d := by
        intro same
        cases same
        exact other rfl
      exact ⟨⟨letter, opens, different⟩, fits.ends, by simp [TemplateToken.isPrimaryDelimiter]⟩
  | primaryDelimiter d => cases fits.formed
  | property name format =>
      have property : (TemplateToken.property name format).IsProperty := fits.formed
      exact .of_isProperty property seen rest
  | repeatingProperty name d format =>
      have property : (TemplateToken.repeatingProperty name d format).IsProperty := fits.formed
      exact .of_isProperty property seen rest

theorem primaryDelimiter_precedes (c : Char) (rest : List Char) :
    Precedes (some c) false (.primaryDelimiter c) rest :=
  ⟨rfl, by simp [TemplateToken.isConstant], fun _ => rfl⟩

theorem isPrimaryDelimiter_of_unconfigured (fits : Precedes none before value rest) :
    value.isPrimaryDelimiter = false := by
  cases value with
  | primaryDelimiter d => cases fits.formed
  | _ => rfl

namespace Reading

theorem relabelled (reading : Reading none before offset front tokens)
    (ok : relabel c seen tokens = .ok others) : Reading (some c) seen offset front others := by
  induction reading generalizing seen others with
  | done =>
      cases ok
      exact .done
  | @token before offset value rest later fits behind ih =>
      by_cases found : value = .delimiter c
      · subst found
        rw [relabel, if_pos rfl] at ok
        cases seen with
        | true => cases ok
        | false =>
            obtain ⟨tail, behindOk, rfl⟩ := map_eq_ok_iff.mp ok
            exact .token (primaryDelimiter_precedes c rest) (ih behindOk)
      · rw [relabel, if_neg found] at ok
        obtain ⟨tail, behindOk, rfl⟩ := map_eq_ok_iff.mp ok
        -- No token is primary without a separator, so `seen` is carried on as it is.
        have tailReading := ih behindOk
        rw [← Bool.or_false seen, ← isPrimaryDelimiter_of_unconfigured fits] at tailReading
        exact .token (fits.configured found) tailReading

theorem malformed_of_relabel (reading : Reading none before offset front tokens)
    (failed : relabel c seen tokens = .error failure) :
    ∃ ahead construct others, front = ahead ++ construct ∧
      Reading (some c) seen offset ahead others ∧
      Malformed (some c) (seen || seesPrimary others) (offset + byteLength ahead)
        construct failure := by
  induction reading generalizing seen with
  | done => cases failed
  | @token before offset value rest later fits behind ih =>
      by_cases found : value = .delimiter c
      · subst found
        rw [relabel, if_pos rfl] at failed
        cases seen with
        | true =>
            cases failed
            exact ⟨[], _, [], rfl, .done, .duplicate rfl rfl⟩
        | false =>
            obtain ⟨ahead, construct, others, split, reading, malformed⟩ :=
              ih (map_eq_error_iff.mp failed)
            have whole := Reading.token (primaryDelimiter_precedes c ahead) reading
            subst split
            exact ⟨_, construct, _, rfl, whole, Malformed.behind_cons_iff.mpr malformed⟩
      · rw [relabel, if_neg found] at failed
        obtain ⟨ahead, construct, others, split, reading, malformed⟩ :=
          ih (map_eq_error_iff.mp failed)
        subst split
        rw [← Bool.or_false seen, ← isPrimaryDelimiter_of_unconfigured fits] at reading malformed
        have whole := Reading.token (fits.configured found).of_append reading
        refine ⟨_, construct, _, ?_, whole, Malformed.behind_cons_iff.mpr malformed⟩
        rw [List.append_assoc]

end Reading

end Readings

/-! ## Runs whose ranges have to fit -/

namespace Lexer

section Unconfigured

variable {lexer last : Lexer} {lexeme : Lexeme} {c : Char} {seen before : Bool} {token : Token}

theorem exists_token_of_configured
    (step : lexer.token (some c) seen lexeme = .ok (token, last)) :
    ∃ plain, lexer.token none before lexeme = .ok (plain, last) := by
  unfold Lexer.token at step ⊢
  split at step
  · cases step
    exact ⟨_, rfl⟩
  · exact ⟨token, step⟩
  all_goals
    obtain ⟨_, _, same⟩ := map_eq_ok_iff.mp step
    cases same
    exact ⟨_, rfl⟩

theorem token?_eq_none_of_configured (absent : lexer.token? (some c) seen lexeme = none) :
    lexer.token? none before lexeme = none := by
  unfold token? at absent ⊢
  split at absent
  · exact absent
  · rw [Option.map_eq_none_iff] at absent ⊢
    exact absent

theorem exists_token?_of_configured
    (step : lexer.token? (some c) seen lexeme = some (.ok (token, last))) :
    ∃ plain, lexer.token? none before lexeme = some (.ok (plain, last)) := by
  unfold token? at step ⊢
  split at step
  · exact ⟨token, step⟩
  · obtain ⟨range, made, read⟩ := Option.map_eq_some_iff.mp step
    obtain ⟨plain, unread⟩ := exists_token_of_configured read
    exact ⟨plain, Option.map_eq_some_iff.mpr ⟨range, made, unread⟩⟩

theorem tokens?_eq_none_of_configured (absent : lexer.tokens? (some c) seen = none) :
    lexer.tokens? none before = none := by
  -- Both runs go on behind the same token, until the configured one finds a duplicate.
  induction length : lexer.rest.length using Nat.strong_induction_on
      generalizing lexer seen before with
  | _ bound ih =>
      subst length
      cases read : lexer.next with
      | mk found reached =>
          cases found with
          | none =>
              have ended := next_eq_none_iff.mp (congrArg Prod.fst read)
              rw [tokens?_of_nil ended] at absent
              cases absent
          | some lexeme =>
              rw [tokens?_of_next read] at absent ⊢
              split at absent
              · rename_i unfit
                rw [token?_eq_none_of_configured unfit]
              · cases absent
              · rename_i token last step
                obtain ⟨plain, unread⟩ := exists_token?_of_configured step
                have shorter := Nat.lt_of_le_of_lt
                  (length_le_of_token (eq_of_token? step).symm) (length_lt_of_next read)
                rw [Option.map_eq_none_iff] at absent
                rw [unread]
                exact Option.map_eq_none_iff.mpr (ih _ shorter absent rfl)

end Unconfigured

end Lexer

/-! ## Templates -/

section Templates

variable {c : Char} {template : String} {front rest : List Char} {tokens : List Token}
  {failure : TokenizeError}

theorem duplicate_of_relabel {seen : Bool} (failed : relabel c seen tokens = .error failure) :
    ∃ range, failure = .duplicatePrimarySeparator c range := by
  induction tokens generalizing seen with
  | nil => cases failed
  | cons token rest ih =>
      rw [relabel] at failed
      split at failed
      · split at failed
        · cases failed
          exact ⟨token.range, rfl⟩
        · exact ih (map_eq_error_iff.mp failed)
      · exact ih (map_eq_error_iff.mp failed)

theorem tokenize_of_relabel_error (symbol : lexesAsSymbol c = true)
    (split : template.toList = front ++ rest) (reading : Reading none false 0 front tokens)
    (failed : relabel c false tokens = .error failure) :
    tokenize template (some c) = .error failure := by
  obtain ⟨ahead, construct, others, here, readingAhead, malformed⟩ :=
    reading.malformed_of_relabel failed
  obtain ⟨range, rfl⟩ := duplicate_of_relabel failed
  rw [Bool.false_or, Nat.zero_add] at malformed
  have goesOn := malformed.append (by simp) rest
  refine tokenize_of_failsAt (usableSeparator_of_symbol symbol) ⟨?_, readingAhead, goesOn⟩
  rw [split, here, List.append_assoc]

theorem tokenize_some_of_ok (symbol : lexesAsSymbol c = true)
    (run : tokenize template none = .ok tokens) :
    tokenize template (some c) = relabel c false tokens := by
  obtain ⟨_, nonempty, reading⟩ := tokenize_eq_ok_iff.mp run
  cases found : relabel c false tokens with
  | error failure =>
      exact tokenize_of_relabel_error symbol (List.append_nil _).symm reading found
  | ok others =>
      have usable := usableSeparator_of_symbol symbol
      exact tokenize_eq_ok_iff.mpr ⟨usable, nonempty, reading.relabelled found⟩

theorem tokenize_some_of_failsAt (symbol : lexesAsSymbol c = true)
    (fails : FailsAt none template.toList front rest tokens failure) :
    tokenize template (some c) = relabel c false tokens >>= fun _ => .error failure := by
  cases found : relabel c false tokens with
  | error duplicate => exact tokenize_of_relabel_error symbol fails.split fails.reading found
  | ok others =>
      have malformed := fails.malformed.of_unconfigured (some c) (seesPrimary others)
      exact tokenize_of_failsAt (usableSeparator_of_symbol symbol)
        ⟨fails.split, fails.reading.relabelled found, malformed⟩

theorem tokenize?_of_unconfigured (symbol : lexesAsSymbol c = true)
    {answer : Except TokenizeError (List Token)} (run : tokenize? template none = some answer) :
    tokenize? template (some c) = some (tokenize template (some c)) := by
  cases configured : tokenize? template (some c) with
  | some found => rw [eq_of_tokenize? configured]
  | none =>
      by_cases empty : template = ""
      · subst empty
        cases configured
      · rw [tokenize?_of_usable (usableSeparator_of_symbol symbol) empty] at configured
        rw [tokenize?_of_usable usableSeparator_none empty,
          Lexer.tokens?_eq_none_of_configured configured] at run
        cases run

/-- Configuring a separator only relabels delimiters.  A template that is read
without it is read with it, with its one delimiter `c` as the primary one, and fails
at a second one.  A template that fails without it fails with it in the same way,
unless two delimiters `c` stand in front of its malformed construct.  It makes no
range that does not fit where reading without it makes none. -/
theorem tokenize_some_relabels_delimiters (symbol : lexesAsSymbol c = true) (template : String) :
    (∀ tokens, tokenize template none = .ok tokens →
      tokenize template (some c) =
        match delimitersOf c tokens with
        | [] => .ok tokens
        | [_] => .ok (tokens.map (Token.asPrimary c))
        | _ :: second :: _ => .error (.duplicatePrimarySeparator c second.range)) ∧
    (∀ failure, tokenize template none = .error failure →
      (template = "" ∧ tokenize template (some c) = .error failure) ∨
      ∃ front construct tokens, template.toList = front ++ construct ∧
        (front = [] ∧ tokens = [] ∨ tokenize (String.ofList front) none = .ok tokens) ∧
        Malformed none false (byteLength front) construct failure ∧
        tokenize template (some c) =
          match delimitersOf c tokens with
          | _ :: second :: _ => .error (.duplicatePrimarySeparator c second.range)
          | _ => .error failure) ∧
    (∀ answer, tokenize? template none = some answer →
      tokenize? template (some c) = some (tokenize template (some c))) := by
  refine ⟨?_, ?_, fun answer => tokenize?_of_unconfigured symbol⟩
  · intro tokens run
    rw [tokenize_some_of_ok symbol run, relabel_from_start]
  · intro failure failed
    by_cases empty : template = ""
    · subst empty
      cases failed
      exact .inl ⟨rfl, rfl⟩
    · have usable := usableSeparator_none
      obtain ⟨front, construct, tokens, fails⟩ := exists_failsAt_of_tokenize usable empty failed
      have malformed := fails.malformed.of_unconfigured none false
      refine .inr ⟨front, construct, tokens, fails.split,
        tokenize_of_reading usable fails.reading, malformed, ?_⟩
      rw [tokenize_some_of_failsAt symbol fails, relabel_from_start]
      match delimitersOf c tokens with
      | [] => rfl
      | [_] => rfl
      | _ :: _ :: _ => rfl

end Templates

theorem bar_separates_two_properties :
    lexesAsSymbol '|' = true ∧
      tokenize "{A:|}|{T...|}" (some '|') =
        .ok [⟨.property "A" (some "|"), .ofLength 0 5⟩, ⟨.primaryDelimiter '|', .ofLength 5 1⟩,
          ⟨.repeatingProperty "T" '|' none, .ofLength 6 7⟩] ∧
      ∃ front construct tokens, "a|é|\x7bT...|".toList = front ++ construct ∧
        (front = [] ∧ tokens = [] ∨ tokenize (String.ofList front) none = .ok tokens) ∧
        Malformed none false (byteLength front) construct (.unterminatedProperty 5) ∧
        tokenize "a|é|\x7bT...|" (some '|') =
          match delimitersOf '|' tokens with
          | _ :: second :: _ => .error (.duplicatePrimarySeparator '|' second.range)
          | _ => .error (.unterminatedProperty 5) := by
  have symbol : lexesAsSymbol '|' = true := lexesAsSymbol_iff.mpr (by decide +kernel)
  have read : tokenize "{A:|}|{T...|}" none =
      .ok [⟨.property "A" (some "|"), .ofLength 0 5⟩, ⟨.delimiter '|', .ofLength 5 1⟩,
        ⟨.repeatingProperty "T" '|' none, .ofLength 6 7⟩] := by
    decide +kernel
  have failed : tokenize "a|é|\x7bT...|" none = .error (.unterminatedProperty 5) := by
    decide +kernel
  refine ⟨symbol, ?_, ?_⟩
  · rw [(tokenize_some_relabels_delimiters symbol "{A:|}|{T...|}").1 _ read]
    rfl
  · have nonempty : ¬("a|é|\x7bT...|" = "" ∧ tokenize "a|é|\x7bT...|" (some '|') =
        .error (.unterminatedProperty 5)) := by
      simp
    exact ((tokenize_some_relabels_delimiters symbol "a|é|\x7bT...|").2.1 _ failed).resolve_left
      nonempty

end CompositeKey
