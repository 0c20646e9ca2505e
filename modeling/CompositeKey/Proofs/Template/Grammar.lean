import CompositeKey.Proofs.Template.Lexing
import Mathlib.Data.List.Chain

/-!
# The grammar of templates

The token lists that a template can be the written form of.  Reading accepts
exactly the written forms of these lists, and gives back the list.
-/

set_option autoImplicit false

namespace CompositeKey

namespace TemplateToken

def isConstant : TemplateToken → Bool
  | .constant _ => true
  | _ => false

def WellFormed (separator : Option Char) : TemplateToken → Prop
  | .constant text => text.toList ≠ [] ∧ ∀ c ∈ text.toList, isLetterOrNumber c = true
  | .delimiter c => isLetterOrNumber c = false ∧ c ≠ '{' ∧ separator ≠ some c
  | .primaryDelimiter c => separator = some c
  | value => value.IsProperty

instance (separator : Option Char) (value : TemplateToken) :
    Decidable (value.WellFormed separator) :=
  match value with
  | .constant text =>
      -- `all` keeps instance search from going through every character there is.
      decidable_of_iff (text.toList ≠ [] ∧ text.toList.all isLetterOrNumber = true) <| by
        rw [List.all_eq_true]
        rfl
  | .delimiter c =>
      inferInstanceAs (Decidable (isLetterOrNumber c = false ∧ c ≠ '{' ∧ separator ≠ some c))
  | .primaryDelimiter c => inferInstanceAs (Decidable (separator = some c))
  | .property name format => inferInstanceAs (Decidable (IsProperty (.property name format)))
  | .repeatingProperty name c format =>
      inferInstanceAs (Decidable (IsProperty (.repeatingProperty name c format)))

end TemplateToken

/-- A separator can be configured when it is a symbol wherever it stands. -/
def UsableSeparator (separator : Option Char) : Prop :=
  ∀ c, separator = some c → lexesAsSymbol c = true

/-- A list of tokens that is the reading of a template. -/
structure Canonical (separator : Option Char) (values : List TemplateToken) : Prop where
  ne_nil : values ≠ []
  wellFormed : ∀ value ∈ values, value.WellFormed separator
  separated : values.IsChain fun first second =>
    first.isConstant = true → second.isConstant = false
  single : values.countP TemplateToken.isPrimaryDelimiter ≤ 1

instance (separator : Option Char) (values : List TemplateToken) :
    Decidable (Canonical separator values) :=
  decidable_of_iff
    (values ≠ [] ∧ (∀ value ∈ values, value.WellFormed separator) ∧
      (values.IsChain fun first second =>
        first.isConstant = true → second.isConstant = false) ∧
      values.countP TemplateToken.isPrimaryDelimiter ≤ 1)
    ⟨fun ⟨nonempty, formed, separated, single⟩ => ⟨nonempty, formed, separated, single⟩,
      fun canonical => ⟨canonical.ne_nil, canonical.wellFormed, canonical.separated,
        canonical.single⟩⟩

def writtenTokens (values : List TemplateToken) : List Char :=
  values.flatMap TemplateToken.written

theorem writtenTokens_cons (value : TemplateToken) (values : List TemplateToken) :
    writtenTokens (value :: values) = value.written ++ writtenTokens values :=
  List.flatMap_cons

namespace TemplateToken

variable {separator : Option Char} {value : TemplateToken}

theorem wellFormed_of_isProperty (property : value.IsProperty) : value.WellFormed separator := by
  cases value with
  | property name format => exact property
  | repeatingProperty name c format => exact property
  | _ => exact property.elim

theorem isConstant_of_isProperty (property : value.IsProperty) : value.isConstant = false := by
  cases value with
  | constant text => exact property.elim
  | _ => rfl

theorem isPrimaryDelimiter_of_isProperty (property : value.IsProperty) :
    value.isPrimaryDelimiter = false := by
  cases value with
  | primaryDelimiter c => exact property.elim
  | _ => rfl

theorem byteLength_written_of_isProperty (property : value.IsProperty) :
    byteLength value.written = byteLength value.body + 2 := by
  have opens : '{'.utf8Size = 1 := rfl
  have closes : '}'.utf8Size = 1 := rfl
  rw [written_of_isProperty property]
  simp only [List.cons_append, byteLength_cons, byteLength_append, byteLength_nil, opens, closes]
  omega

theorem written_ne_nil (formed : value.WellFormed separator) : value.written ≠ [] := by
  cases value with
  | constant text => exact formed.1
  | _ => simp [written]

theorem wordEnds_written (usable : UsableSeparator separator)
    (formed : value.WellFormed separator) (other : value.isConstant = false) (rest : List Char) :
    WordEnds (value.written ++ rest) := by
  cases value with
  | constant text => simp [isConstant] at other
  | delimiter c => exact runEnds_cons formed.1
  | primaryDelimiter c =>
      have symbol := CharClass.of_eq_symbol_iff.mp (lexesAsSymbol_iff.mp (usable c formed))
      exact runEnds_cons symbol.2.2
  | property name format => exact runEnds_cons isLetterOrNumber_openBrace
  | repeatingProperty name c format => exact runEnds_cons isLetterOrNumber_openBrace

theorem not_wordEnds_written (formed : value.WellFormed separator)
    (constant : value.isConstant = true) (rest : List Char) :
    ¬ WordEnds (value.written ++ rest) := by
  cases value with
  | constant text =>
      obtain ⟨nonempty, letters⟩ := formed
      intro ends
      cases found : text.toList with
      | nil => exact nonempty found
      | cons c others =>
          have stops := ends c (by simp [written, found])
          rw [letters c (by simp [found])] at stops
          contradiction
  | _ => simp [isConstant] at constant

end TemplateToken

/-- A token can be read in front of `rest`: a constant takes all letters and
numbers, and a primary delimiter is the first one. -/
structure Precedes (separator : Option Char) (seen : Bool) (value : TemplateToken)
    (rest : List Char) : Prop where
  formed : value.WellFormed separator
  ends : value.isConstant = true → WordEnds rest
  first : value.isPrimaryDelimiter = true → seen = false

theorem Precedes.of_isProperty {separator : Option Char} {value : TemplateToken}
    (property : value.IsProperty) (seen : Bool) (rest : List Char) :
    Precedes separator seen value rest :=
  ⟨TemplateToken.wellFormed_of_isProperty property,
    by simp [TemplateToken.isConstant_of_isProperty property],
    by simp [TemplateToken.isPrimaryDelimiter_of_isProperty property]⟩

namespace Lexer

variable {separator : Option Char} {seen : Bool}

theorem delimiterToken_ok {c : Char} {range : TextRange} {token : Token} {lexer last : Lexer}
    (other : isLetterOrNumber c = false ∧ c ≠ '{')
    (step : (delimiterToken separator seen c range).map (fun token => (token, lexer)) =
      .ok (token, last)) :
    last = lexer ∧ Precedes separator seen token.value lexer.rest ∧ token.value.written = [c] ∧
      token.range = range := by
  obtain ⟨value, read, same⟩ := map_eq_ok_iff.mp step
  obtain ⟨rfl, rfl⟩ := Prod.mk.inj same
  unfold delimiterToken at read
  split at read
  · rename_i configured
    split at read
    · contradiction
    · rename_i fresh
      cases read
      refine ⟨rfl, ⟨configured, by simp [TemplateToken.isConstant], ?_⟩, rfl, rfl⟩
      intro _
      simpa using fresh
  · rename_i different
    cases read
    exact ⟨rfl, ⟨⟨other.1, other.2, different⟩, by simp [TemplateToken.isConstant],
      by simp [TemplateToken.isPrimaryDelimiter]⟩, rfl, rfl⟩

theorem isProperty_of_propertyBody {lexer last : Lexer} {body : PropertyBody}
    {value : TemplateToken} (read : lexer.propertyBody = .ok (body, last))
    (token : body.token = .ok value) :
    value.IsProperty ∧ '{' :: lexer.rest = value.written ++ last.rest ∧
      body.range = TextRange.ofLength lexer.start (byteLength value.written) ∧
      last.start = lexer.start ∧ last.stop + 1 = lexer.stop + byteLength value.written := by
  obtain ⟨free, split, _, range, start, stop⟩ := propertyBody_ok_iff.mp read
  obtain ⟨property, same⟩ := (PropertyBody.token_ok_iff free).mp token
  have length := TemplateToken.byteLength_written_of_isProperty property
  rw [same] at length
  refine ⟨property, ?_, by rw [range, length], start, by omega⟩
  rw [TemplateToken.written_of_isProperty property, same, split]
  simp

theorem constant_precedes {c : Char} (found : CharClass.of c = .wordChar) (rest : List Char) :
    Precedes separator seen (.constant (String.ofList (c :: rest.takeWhile isWordChar)))
      (rest.dropWhile isWordChar) := by
  refine ⟨⟨by simp, ?_⟩, fun _ => wordEnds_dropWhile rest,
    by simp [TemplateToken.isPrimaryDelimiter]⟩
  intro d member
  rw [String.toList_ofList] at member
  rcases List.mem_cons.mp member with rfl | later
  · exact CharClass.of_eq_wordChar_iff.mp found
  · rw [← isWordChar_eq]
    exact List.all_eq_true.mp List.all_takeWhile d later

theorem precedes_of_reads {lexer last : Lexer} {token : Token}
    (reads : lexer.Reads separator seen token last) :
    Precedes separator seen token.value last.rest ∧
      lexer.rest = token.value.written ++ last.rest ∧
      token.range = TextRange.ofLength lexer.stop (byteLength token.value.written) ∧
      last.start = lexer.stop ∧ last.stop = lexer.stop + byteLength token.value.written := by
  obtain ⟨lexeme, after, taken, step⟩ := reads
  -- The class of the first character decides what is read.
  cases remaining : lexer.rest with
  | nil => simp [next, remaining] at taken
  | cons c rest =>
      simp only [next, remaining, Prod.mk.injEq, Option.some.injEq] at taken
      obtain ⟨rfl, rfl⟩ := taken
      cases found : CharClass.of c with
      | openBrace =>
          have opens := CharClass.eq_of_openBrace found
          subst opens
          simp only [Lexer.token, LexemeKind.read, found] at step
          split at step
          · contradiction
          · rename_i body behind bodyRead
            obtain ⟨value, valueRead, same⟩ := map_eq_ok_iff.mp step
            obtain ⟨rfl, rfl⟩ := Prod.mk.inj same
            obtain ⟨property, split, range, start, stop⟩ :=
              isProperty_of_propertyBody bodyRead valueRead
            have opening : byteLength LexemeKind.openBrace.text = 1 := rfl
            simp only [opening] at stop
            exact ⟨.of_isProperty property seen _, split, range, start, by simp only; omega⟩
      | closeBrace =>
          have closes := CharClass.eq_of_closeBrace found
          subst closes
          simp only [Lexer.token, LexemeKind.read, found] at step
          obtain ⟨rfl, fits, written, range⟩ :=
            delimiterToken_ok ⟨isLetterOrNumber_closeBrace, by decide⟩ step
          rw [written]
          exact ⟨fits, rfl, range, rfl, rfl⟩
      | wordChar =>
          simp only [Lexer.token, LexemeKind.read, found, Except.ok.injEq,
            Prod.mk.injEq] at step
          obtain ⟨rfl, rfl⟩ := step
          have written : (TemplateToken.constant
              (String.ofList (c :: rest.takeWhile isWordChar))).written =
              c :: rest.takeWhile isWordChar := String.toList_ofList
          refine ⟨constant_precedes found rest, ?_, ?_, rfl, ?_⟩
          · rw [written, List.cons_append, List.takeWhile_append_dropWhile]
          · rw [written]
            rfl
          · rw [written]
            rfl
      | symbol =>
          simp only [Lexer.token, LexemeKind.read, found] at step
          have symbol := CharClass.of_eq_symbol_iff.mp found
          obtain ⟨rfl, fits, written, range⟩ := delimiterToken_ok ⟨symbol.2.2, symbol.1⟩ step
          rw [written]
          exact ⟨fits, rfl, range, rfl, rfl⟩

theorem reads_of_isProperty {lexer : Lexer} {value : TemplateToken} {rest : List Char}
    (property : value.IsProperty) (split : lexer.rest = value.written ++ rest) :
    lexer.Reads separator seen
      ⟨value, TextRange.ofLength lexer.stop (byteLength value.written)⟩
      ⟨lexer.stop, lexer.stop + byteLength value.written, rest⟩ := by
  have remaining : lexer.rest = '{' :: (value.body ++ '}' :: rest) := by
    rw [split, TemplateToken.written_of_isProperty property]
    simp
  have length := TemplateToken.byteLength_written_of_isProperty property
  have opening : byteLength LexemeKind.openBrace.text = 1 := rfl
  have read : LexemeKind.read '{' (value.body ++ '}' :: rest) =
      (.openBrace, value.body ++ '}' :: rest) := rfl
  have taken : Lexer.propertyBody ⟨lexer.stop, lexer.stop + 1, value.body ++ '}' :: rest⟩ = _ :=
    propertyBody_of_rest (TemplateToken.braceFree_body property) rfl
  refine reads_of_read remaining read ?_
  simp only [Lexer.token, opening, taken]
  rw [PropertyBody.token_of_isProperty property rfl, length]
  simp only [Except.map, Except.ok.injEq, Prod.mk.injEq, true_and, Lexer.mk.injEq, and_true]
  omega

theorem reads_of_precedes {lexer : Lexer} {value : TemplateToken} {rest : List Char}
    (usable : UsableSeparator separator) (fits : Precedes separator seen value rest)
    (split : lexer.rest = value.written ++ rest) :
    lexer.Reads separator seen
      ⟨value, TextRange.ofLength lexer.stop (byteLength value.written)⟩
      ⟨lexer.stop, lexer.stop + byteLength value.written, rest⟩ := by
  cases value with
  | constant text =>
      obtain ⟨nonempty, letters⟩ := fits.formed
      have ends := fits.ends rfl
      obtain ⟨c, others, found⟩ := List.exists_cons_of_ne_nil nonempty
      rw [TemplateToken.written, found, List.cons_append] at split
      rw [found] at letters
      have behind : ∀ d ∈ others, isLetterOrNumber d = true := fun d member =>
        letters d (List.mem_cons_of_mem c member)
      have read : LexemeKind.read c (others ++ rest) = (.word (c :: others), rest) := by
        have word := CharClass.of_eq_wordChar_iff.mpr (letters c List.mem_cons_self)
        simp only [LexemeKind.read, word, takeWhile_of_wordEnds behind ends,
          dropWhile_of_wordEnds behind ends]
      refine reads_of_read split read ?_
      simp only [Lexer.token, LexemeKind.text, Lexeme.range, Lexeme.text, TemplateToken.written]
      rw [← found, String.ofList_toList]
  | delimiter c =>
      obtain ⟨letter, opens, other⟩ := fits.formed
      have token : ∀ range, delimiterToken separator seen c range = .ok ⟨.delimiter c, range⟩ :=
        fun range => if_neg other
      by_cases closes : c = '}'
      · subst closes
        have read : LexemeKind.read '}' rest = (.closeBrace, rest) := rfl
        refine reads_of_read split read ?_
        simp only [Lexer.token, token]
        rfl
      · have read : LexemeKind.read c rest = (.symbol c, rest) := by
          simp only [LexemeKind.read, CharClass.of_eq_symbol_iff.mpr ⟨opens, closes, letter⟩]
        refine reads_of_read split read ?_
        simp only [Lexer.token, token]
        rfl
  | primaryDelimiter c =>
      have configured : separator = some c := fits.formed
      have fresh : seen = false := fits.first rfl
      have read : LexemeKind.read c rest = (.symbol c, rest) := by
        simp only [LexemeKind.read, lexesAsSymbol_iff.mp (usable c configured)]
      refine reads_of_read split read ?_
      simp only [Lexer.token, delimiterToken, configured, fresh]
      rfl
  | property name format => exact reads_of_isProperty fits.formed split
  | repeatingProperty name c format => exact reads_of_isProperty fits.formed split

end Lexer

/-! ## Reading a whole text -/

/-- Tokens that are read one behind the other from a text at an offset; `seen`
tells whether the primary delimiter has come before. -/
inductive Reading (separator : Option Char) :
    Bool → Nat → List Char → List Token → Prop where
  | done {seen : Bool} {offset : Nat} : Reading separator seen offset [] []
  | token {seen : Bool} {offset : Nat} {value : TemplateToken} {rest : List Char}
      {others : List Token} (fits : Precedes separator seen value rest)
      (behind : Reading separator (seen || value.isPrimaryDelimiter)
        (offset + byteLength value.written) rest others) :
      Reading separator seen offset (value.written ++ rest)
        (⟨value, TextRange.ofLength offset (byteLength value.written)⟩ :: others)

namespace Reading

variable {separator : Option Char} {seen : Bool} {offset : Nat} {text : List Char}
  {tokens : List Token}

theorem of_tokens {lexer : Lexer} (run : lexer.tokens separator seen = .ok tokens) :
    Reading separator seen lexer.stop lexer.rest tokens := by
  induction tokens generalizing lexer seen with
  | nil =>
      rw [Lexer.tokens_eq_nil_iff.mp run]
      exact .done
  | cons first others ih =>
      obtain ⟨last, reads, behind⟩ := Lexer.tokens_eq_cons_iff.mp run
      obtain ⟨fits, split, range, _, stop⟩ := Lexer.precedes_of_reads reads
      obtain ⟨value, firstRange⟩ := first
      simp only at fits split range stop
      subst range
      rw [split]
      have tail := ih behind
      rw [stop] at tail
      exact .token fits tail

theorem tokens_eq (usable : UsableSeparator separator)
    (reading : Reading separator seen offset text tokens) (start : Nat) :
    Lexer.tokens ⟨start, offset, text⟩ separator seen = .ok tokens := by
  induction reading generalizing start with
  | done => exact Lexer.tokens_eq_nil_iff.mpr rfl
  | @token seen offset value rest others fits behind ih =>
      exact Lexer.tokens_eq_cons_iff.mpr
        ⟨_, Lexer.reads_of_precedes usable fits rfl, ih offset⟩

theorem written (reading : Reading separator seen offset text tokens) :
    writtenTokens (tokens.map Token.value) = text := by
  induction reading with
  | done => rfl
  | token fits behind ih =>
      rw [List.map_cons, writtenTokens_cons, ih]

theorem wellFormed (reading : Reading separator seen offset text tokens) :
    ∀ token ∈ tokens, token.value.WellFormed separator := by
  induction reading with
  | done => simp
  | token fits behind ih => exact List.forall_mem_cons.mpr ⟨fits.formed, ih⟩

theorem separated (reading : Reading separator seen offset text tokens) :
    (tokens.map Token.value).IsChain fun first second =>
      first.isConstant = true → second.isConstant = false := by
  induction reading with
  | done => exact .nil
  | @token seen offset value rest others fits behind ih =>
      cases behind with
      | done => exact .singleton value
      | @token _ _ next behindNext more fitsNext later =>
          refine .cons_cons ?_ ih
          intro constant
          -- The first constant would have taken the letters of the second one.
          cases isConstant : next.isConstant with
          | false => rfl
          | true =>
              exact absurd (fits.ends constant)
                (TemplateToken.not_wordEnds_written fitsNext.formed isConstant behindNext)

theorem countP_isPrimaryDelimiter_le (reading : Reading separator seen offset text tokens) :
    (tokens.map Token.value).countP TemplateToken.isPrimaryDelimiter ≤ if seen then 0 else 1 := by
  induction reading with
  | done => simp
  | @token seen offset value rest others fits behind ih =>
      cases primary : value.isPrimaryDelimiter with
      | false => simpa [primary] using ih
      | true =>
          have fresh := fits.first primary
          simp only [primary, Bool.or_true, if_true, Nat.le_zero] at ih
          simp [primary, fresh, ih]

theorem exists_of_wellFormed {values : List TemplateToken} (usable : UsableSeparator separator)
    (formed : ∀ value ∈ values, value.WellFormed separator)
    (separated : values.IsChain fun first second =>
      first.isConstant = true → second.isConstant = false)
    (single : values.countP TemplateToken.isPrimaryDelimiter ≤ if seen then 0 else 1)
    (offset : Nat) :
    ∃ tokens, Reading separator seen offset (writtenTokens values) tokens ∧
      tokens.map Token.value = values := by
  induction values generalizing seen offset with
  | nil => exact ⟨[], .done, rfl⟩
  | cons value others ih =>
      obtain ⟨valueFormed, othersFormed⟩ := List.forall_mem_cons.mp formed
      have fresh : value.isPrimaryDelimiter = true → seen = false := by
        intro primary
        cases seen with
        | false => rfl
        | true => simp [primary] at single
      have remaining : others.countP TemplateToken.isPrimaryDelimiter ≤
          if seen || value.isPrimaryDelimiter then 0 else 1 := by
        cases primary : value.isPrimaryDelimiter with
        | false => simpa [primary] using single
        | true => simpa [primary, fresh primary] using single
      have ends : value.isConstant = true → WordEnds (writtenTokens others) := by
        intro constant
        cases others with
        | nil => exact runEnds_nil
        | cons next more =>
            have other := (List.isChain_cons_cons.mp separated).1 constant
            exact TemplateToken.wordEnds_written usable
              (othersFormed next List.mem_cons_self) other _
      obtain ⟨tokens, reading, same⟩ :=
        ih othersFormed separated.tail remaining (offset + byteLength value.written)
      exact ⟨_, .token ⟨valueFormed, ends, fresh⟩ reading, by rw [List.map_cons, same]⟩

end Reading

/-! ## Templates -/

theorem tokenize_of_usable {template : String} {separator : Option Char}
    (usable : UsableSeparator separator) (nonempty : template.toList ≠ []) :
    tokenize template separator = (Lexer.ofText template.toList).tokens separator false := by
  have present : template.isEmpty = false := by
    simpa [String.isEmpty_iff] using nonempty
  cases separator with
  | none => simp [tokenize, present]
  | some c => simp [tokenize, present, usable c rfl]

theorem tokenize_eq_ok_iff {template : String} {separator : Option Char} {tokens : List Token} :
    tokenize template separator = .ok tokens ↔
      UsableSeparator separator ∧ template.toList ≠ [] ∧
        Reading separator false 0 template.toList tokens := by
  constructor
  · intro run
    have usable : UsableSeparator separator := by
      rintro c rfl
      cases symbol : lexesAsSymbol c with
      | true => rfl
      | false =>
          unfold tokenize at run
          split at run
          · contradiction
          · simp [symbol] at run
    have nonempty : template.toList ≠ [] := by
      intro empty
      have absent : template.isEmpty = true := by simpa [String.isEmpty_iff] using empty
      simp [tokenize, absent] at run
    rw [tokenize_of_usable usable nonempty] at run
    exact ⟨usable, nonempty, Reading.of_tokens run⟩
  · rintro ⟨usable, nonempty, reading⟩
    rw [tokenize_of_usable usable nonempty]
    exact reading.tokens_eq usable 0

theorem canonical_of_tokenize {template : String} {separator : Option Char}
    {tokens : List Token} (run : tokenize template separator = .ok tokens) :
    Canonical separator (tokens.map Token.value) ∧
      writtenTokens (tokens.map Token.value) = template.toList := by
  obtain ⟨_, nonempty, reading⟩ := tokenize_eq_ok_iff.mp run
  have written := reading.written
  refine ⟨⟨?_, ?_, reading.separated, reading.countP_isPrimaryDelimiter_le⟩, written⟩
  · intro empty
    rw [empty] at written
    exact nonempty written.symm
  · intro value member
    obtain ⟨token, tokenMember, rfl⟩ := List.mem_map.mp member
    exact reading.wellFormed token tokenMember

theorem writtenTokens_ne_nil {separator : Option Char} {values : List TemplateToken}
    (canonical : Canonical separator values) : writtenTokens values ≠ [] := by
  obtain ⟨value, others, rfl⟩ := List.exists_cons_of_ne_nil canonical.ne_nil
  have formed := canonical.wellFormed value List.mem_cons_self
  simp [writtenTokens, TemplateToken.written_ne_nil formed]

theorem exists_tokenize_of_canonical {separator : Option Char} {values : List TemplateToken}
    (usable : UsableSeparator separator) (canonical : Canonical separator values) :
    ∃ tokens, tokenize (String.ofList (writtenTokens values)) separator = .ok tokens ∧
      tokens.map Token.value = values := by
  have single : values.countP TemplateToken.isPrimaryDelimiter ≤ if false then 0 else 1 :=
    canonical.single
  obtain ⟨tokens, reading, same⟩ :=
    Reading.exists_of_wellFormed usable canonical.wellFormed canonical.separated single 0
  refine ⟨tokens, tokenize_eq_ok_iff.mpr ⟨usable, ?_, ?_⟩, same⟩
  · rw [String.toList_ofList]
    exact writtenTokens_ne_nil canonical
  · rw [String.toList_ofList]
    exact reading

/-- Reading a template accepts the written forms of the canonical token lists and
nothing else.  It gives back the list that was written, so no text is the written
form of two of them.  A separator that is no symbol makes every template fail. -/
theorem tokenize_reads_canonical_lists (separator : Option Char) :
    (UsableSeparator separator →
      (∀ values, Canonical separator values →
        ∃ tokens, tokenize (String.ofList (writtenTokens values)) separator = .ok tokens ∧
          tokens.map Token.value = values) ∧
      (∀ template tokens, tokenize template separator = .ok tokens →
        Canonical separator (tokens.map Token.value) ∧
          writtenTokens (tokens.map Token.value) = template.toList) ∧
      ∀ first second, Canonical separator first → Canonical separator second →
        writtenTokens first = writtenTokens second → first = second) ∧
    ∀ c, separator = some c → lexesAsSymbol c = false → ∀ template, template ≠ "" →
      tokenize template separator = .error (.invalidPrimarySeparator c) := by
  constructor
  · intro usable
    refine ⟨fun values canonical => exists_tokenize_of_canonical usable canonical,
      fun template tokens run => canonical_of_tokenize run, ?_⟩
    intro first second firstCanonical secondCanonical same
    obtain ⟨tokens, run, firstSame⟩ := exists_tokenize_of_canonical usable firstCanonical
    obtain ⟨others, otherRun, secondSame⟩ := exists_tokenize_of_canonical usable secondCanonical
    rw [same, otherRun, Except.ok.injEq] at run
    rw [← firstSame, ← secondSame, run]
  · rintro c rfl invalid template nonempty
    have present : template.isEmpty = false := by
      simpa [String.isEmpty_iff] using nonempty
    simp [tokenize, present, invalid]

theorem tokenize_reads_user_template :
    (∃ tokens, tokenize "User_{Id:N}\x7d|{Tags....}" (some '|') = .ok tokens ∧
      tokens.map Token.value =
        [.constant "User", .delimiter '_', .property "Id" (some "N"), .delimiter '}',
          .primaryDelimiter '|', .repeatingProperty "Tags" '.' none] ∧
      Canonical (some '|') (tokens.map Token.value)) ∧
    tokenize "User" (some 'x') = .error (.invalidPrimarySeparator 'x') := by
  have usable : UsableSeparator (some '|') := by
    rintro c same
    obtain rfl := Option.some.inj same
    exact lexesAsSymbol_iff.mpr (by decide +kernel)
  have canonical : Canonical (some '|')
      [.constant "User", .delimiter '_', .property "Id" (some "N"), .delimiter '}',
        .primaryDelimiter '|', .repeatingProperty "Tags" '.' none] := by
    decide +kernel
  have word : lexesAsSymbol 'x' = false := by
    rw [Bool.eq_false_iff, ne_eq, lexesAsSymbol_iff]
    decide +kernel
  obtain ⟨accepts, reads, _⟩ := (tokenize_reads_canonical_lists (some '|')).1 usable
  constructor
  · obtain ⟨tokens, run, same⟩ := accepts _ canonical
    exact ⟨tokens, run, same, (reads _ tokens run).1⟩
  · exact (tokenize_reads_canonical_lists (some 'x')).2 'x' rfl word "User" (by decide)

end CompositeKey
