import CompositeKey.Proofs.Template.Lexing
import CompositeKey.Proofs.Text.Slice

/-!
# The lexemes of a text

A text falls into lexemes in one way: each longest run of letters and numbers is a
word, and every other character is a lexeme of its own.  This is also what taking
the longest match of a pattern gives, time after time, and it makes a character a
symbol wherever it stands when it is one on its own.
-/

set_option autoImplicit false

namespace CompositeKey

def LexemeKind.ofOther (c : Char) : LexemeKind :=
  if c = '{' then .openBrace else if c = '}' then .closeBrace else .symbol c

/-- What is a lexeme at its place in a text: a run of letters and numbers that goes on
neither in front nor behind, or another character. -/
inductive Lexeme.StandsIn (text : List Char) : Lexeme → Prop where
  | run {before run after : List Char} (split : text = before ++ run ++ after)
      (nonempty : run ≠ []) (letters : ∀ c ∈ run, isLetterOrNumber c = true)
      (begins : ∀ c ∈ before.getLast?, isLetterOrNumber c = false) (ends : WordEnds after) :
      StandsIn text ⟨.word run, byteLength before⟩
  | other {before after : List Char} {c : Char} (split : text = before ++ c :: after)
      (other : isLetterOrNumber c = false) : StandsIn text ⟨.ofOther c, byteLength before⟩

def Consecutive : Nat → List Lexeme → Prop
  | _, [] => True
  | offset, lexeme :: rest =>
      lexeme.offset = offset ∧ Consecutive (offset + byteLength lexeme.text) rest

structure LexedAs (text : List Char) (lexemes : List Lexeme) : Prop where
  text_eq : lexemes.flatMap Lexeme.text = text
  consecutive : Consecutive 0 lexemes
  mem_iff : ∀ lexeme, lexeme ∈ lexemes ↔ lexeme.StandsIn text

/-! ## Longest matches -/

namespace LexemeKind

/-- A kind that one of the patterns gives: an opening brace, a closing brace, one or
more letters and numbers, or a single character that is none of these. -/
def Matches : LexemeKind → Prop
  | .openBrace => True
  | .closeBrace => True
  | .word text => text ≠ [] ∧ ∀ c ∈ text, isLetterOrNumber c = true
  | .symbol c => c ≠ '{' ∧ c ≠ '}' ∧ isLetterOrNumber c = false

def isWord : LexemeKind → Bool
  | .word _ => true
  | _ => false

/-- A match at the front of a text, none there being longer. -/
structure IsLongestMatch (kind : LexemeKind) (text : List Char) : Prop where
  isMatch : kind.Matches
  atFront : kind.text <+: text
  longest : ∀ other : LexemeKind, other.Matches → other.text <+: text →
    other.text.length ≤ kind.text.length

end LexemeKind

/-- The lexemes of a text at an offset when the longest match is taken each time. -/
inductive LongestMatches : Nat → List Char → List Lexeme → Prop where
  | done {offset : Nat} : LongestMatches offset [] []
  | take {offset : Nat} {kind : LexemeKind} {rest : List Char} {lexemes : List Lexeme}
      (longest : kind.IsLongestMatch (kind.text ++ rest))
      (behind : LongestMatches (offset + byteLength kind.text) rest lexemes) :
      LongestMatches offset (kind.text ++ rest) (⟨kind, offset⟩ :: lexemes)

namespace LexemeKind

variable {kind other : LexemeKind} {c : Char} {rest text : List Char}

theorem text_ofOther (c : Char) : (ofOther c).text = [c] := by
  unfold ofOther
  split
  · rename_i opens
    rw [opens]
    rfl
  · split
    · rename_i closes
      rw [closes]
      rfl
    · rfl

theorem isWord_ofOther (c : Char) : (ofOther c).isWord = false := by
  unfold ofOther
  split
  · rfl
  · split <;> rfl

theorem read_of_letter (letter : isLetterOrNumber c = true) (rest : List Char) :
    read c rest = (.word (c :: rest.takeWhile isWordChar), rest.dropWhile isWordChar) := by
  simp only [read, CharClass.of_eq_wordChar_iff.mpr letter]

theorem read_of_other (notLetter : isLetterOrNumber c = false) (rest : List Char) :
    read c rest = (ofOther c, rest) := by
  by_cases opens : c = '{'
  · subst opens
    rfl
  · by_cases closes : c = '}'
    · subst closes
      rfl
    · simp only [read, CharClass.of_eq_symbol_iff.mpr ⟨opens, closes, notLetter⟩, ofOther,
        if_neg opens, if_neg closes]

theorem all_letters_takeWhile (rest : List Char) :
    ∀ c ∈ rest.takeWhile isWordChar, isLetterOrNumber c = true := by
  intro c member
  rw [← isWordChar_eq]
  exact List.all_eq_true.mp List.all_takeWhile c member

theorem matches_read (c : Char) (rest : List Char) : (read c rest).1.Matches := by
  cases letter : isLetterOrNumber c with
  | true =>
      rw [read_of_letter letter]
      refine ⟨by simp, fun d member => ?_⟩
      rcases List.mem_cons.mp member with rfl | later
      · exact letter
      · exact all_letters_takeWhile rest d later
  | false =>
      rw [read_of_other letter, ofOther]
      split
      · trivial
      · split
        · trivial
        · rename_i opens closes
          exact ⟨opens, closes, letter⟩

theorem text_ne_nil (matched : kind.Matches) : kind.text ≠ [] := by
  cases kind with
  | word text => exact matched.1
  | _ => simp [text]

theorem read_of_matches (matched : kind.Matches) (split : kind.text = c :: rest) :
    (read c rest).1 = kind := by
  cases kind with
  | openBrace =>
      obtain ⟨rfl, rfl⟩ := List.cons.inj split
      rfl
  | closeBrace =>
      obtain ⟨rfl, rfl⟩ := List.cons.inj split
      rfl
  | word word =>
      obtain ⟨_, letters⟩ := matched
      have whole : word = c :: rest := split
      subst whole
      have behind : rest.takeWhile isWordChar = rest :=
        List.takeWhile_eq_self_iff.mpr fun d member => by
          rw [isWordChar_eq]
          exact letters d (List.mem_cons_of_mem c member)
      rw [read_of_letter (letters c List.mem_cons_self), behind]
  | symbol d =>
      obtain ⟨rfl, rfl⟩ := List.cons.inj split
      simp only [read, CharClass.of_eq_symbol_iff.mpr matched]

theorem matches_ofOther (notLetter : isLetterOrNumber c = false) : (ofOther c).Matches := by
  have matched := matches_read c []
  rwa [read_of_other notLetter] at matched

theorem eq_of_matches (matched : kind.Matches) (otherMatched : other.Matches)
    (same : kind.text = other.text) : kind = other := by
  obtain ⟨c, rest, split⟩ := List.exists_cons_of_ne_nil (text_ne_nil matched)
  rw [← read_of_matches matched split, ← read_of_matches otherMatched (same ▸ split)]

theorem length_le_of_matches (matched : kind.Matches) (atFront : kind.text <+: c :: rest) :
    kind.text.length ≤ (read c rest).1.text.length := by
  have positive := List.length_pos_iff.mpr (text_ne_nil (matches_read c rest))
  cases kind with
  | word word =>
      obtain ⟨nonempty, letters⟩ := matched
      obtain ⟨d, others, rfl⟩ := List.exists_cons_of_ne_nil nonempty
      obtain ⟨rfl, inside⟩ := List.cons_prefix_cons.mp atFront
      rw [read_of_letter (letters d List.mem_cons_self)]
      have taken : others <+: rest.takeWhile isWordChar := by
        obtain ⟨behind, rfl⟩ := inside
        rw [List.takeWhile_append_of_pos]
        · exact List.prefix_append ..
        · intro e member
          rw [isWordChar_eq]
          exact letters e (List.mem_cons_of_mem d member)
      exact Nat.succ_le_succ taken.length_le
  | _ => exact positive

theorem isLongestMatch_iff : kind.IsLongestMatch (c :: rest) ↔ kind = (read c rest).1 := by
  have front : (read c rest).1.text <+: c :: rest := ⟨_, text_append_read c rest⟩
  constructor
  · intro longest
    have atLeast := longest.longest _ (matches_read c rest) front
    have atMost := length_le_of_matches longest.isMatch longest.atFront
    have same : kind.text = (read c rest).1.text :=
      (List.prefix_of_prefix_length_le longest.atFront front atMost).eq_of_length
        (Nat.le_antisymm atMost atLeast)
    exact eq_of_matches longest.isMatch (matches_read c rest) same
  · rintro rfl
    exact ⟨matches_read c rest, front, fun other => length_le_of_matches⟩

theorem isLongestMatch_append_iff :
    kind.IsLongestMatch (kind.text ++ rest) ↔
      kind.Matches ∧ (kind.isWord = true → WordEnds rest) := by
  constructor
  · intro longest
    refine ⟨longest.isMatch, fun word => ?_⟩
    obtain ⟨c, others, split⟩ := List.exists_cons_of_ne_nil (text_ne_nil longest.isMatch)
    rw [split, List.cons_append] at longest
    have whole := text_append_read c (others ++ rest)
    rw [← isLongestMatch_iff.mp longest, split, List.cons_append, List.cons.injEq] at whole
    have behind : (read c (others ++ rest)).2 = rest := List.append_cancel_left whole.2
    cases letter : isLetterOrNumber c with
    | true =>
        rw [read_of_letter letter] at behind
        rw [← behind]
        exact wordEnds_dropWhile (others ++ rest)
    | false =>
        have same := isLongestMatch_iff.mp longest
        rw [read_of_other letter] at same
        rw [same, isWord_ofOther] at word
        contradiction
  · rintro ⟨matched, ends⟩
    obtain ⟨c, others, split⟩ := List.exists_cons_of_ne_nil (text_ne_nil matched)
    have alone := read_of_matches matched split
    rw [split, List.cons_append, isLongestMatch_iff, ← alone]
    cases letter : isLetterOrNumber c with
    | true =>
        rw [read_of_letter letter] at alone ⊢
        rw [read_of_letter letter]
        subst alone
        have whole : others.takeWhile isWordChar = others := (List.cons.inj split).2
        have letters := all_letters_takeWhile others
        rw [whole] at letters
        rw [takeWhile_of_wordEnds letters (ends rfl), whole]
    | false => rw [read_of_other letter, read_of_other letter]

theorem isWord_of_getLast? (matched : kind.Matches) {d : Char} (last : d ∈ kind.text.getLast?)
    (letter : isLetterOrNumber d = true) : kind.isWord = true := by
  cases kind with
  | openBrace =>
      obtain rfl : '{' = d := Option.some.inj last
      rw [isLetterOrNumber_openBrace] at letter
      contradiction
  | closeBrace =>
      obtain rfl : '}' = d := Option.some.inj last
      rw [isLetterOrNumber_closeBrace] at letter
      contradiction
  | word word => rfl
  | symbol c =>
      obtain rfl : c = d := Option.some.inj last
      rw [matched.2.2] at letter
      contradiction

theorem exists_ofOther (matched : kind.Matches) (single : kind.isWord = false) :
    ∃ c, isLetterOrNumber c = false ∧ kind = ofOther c := by
  cases kind with
  | openBrace => exact ⟨'{', isLetterOrNumber_openBrace, rfl⟩
  | closeBrace => exact ⟨'}', isLetterOrNumber_closeBrace, rfl⟩
  | word text => contradiction
  | symbol c =>
      obtain ⟨opens, closes, notLetter⟩ := matched
      exact ⟨c, notLetter, by rw [ofOther, if_neg opens, if_neg closes]⟩

theorem letters_of_isWord (matched : kind.Matches) (word : kind.isWord = true) :
    ∀ d ∈ kind.text, isLetterOrNumber d = true := by
  cases kind with
  | word text => exact matched.2
  | _ => contradiction

end LexemeKind

/-- Two texts can be cut apart: no word goes on over the place between them. -/
def Parts (first second : List Char) : Prop :=
  ∀ c ∈ first.getLast?, isLetterOrNumber c = true → WordEnds second

theorem parts_nil (second : List Char) : Parts [] second := by
  intro c last
  cases last

namespace Lexeme

variable {text before rest : List Char} {kind : LexemeKind}

theorem StandsIn.isLongestMatch {lexeme : Lexeme} (stands : lexeme.StandsIn text)
    (split : text = before ++ (lexeme.text ++ rest)) (place : lexeme.offset = byteLength before) :
    lexeme.kind.IsLongestMatch (lexeme.text ++ rest) := by
  apply LexemeKind.isLongestMatch_append_iff.mpr
  cases stands with
  | @run front run after cut nonempty letters begins ends =>
      rw [cut, List.append_assoc] at split
      obtain ⟨_, behind⟩ := eq_of_append_eq_append split place
      have same : after = rest := List.append_cancel_left behind
      subst same
      exact ⟨⟨nonempty, letters⟩, fun _ => ends⟩
  | @other front after c cut notLetter =>
      refine ⟨LexemeKind.matches_ofOther notLetter, fun word => ?_⟩
      rw [LexemeKind.isWord_ofOther] at word
      contradiction

theorem StandsIn.exists_split {lexeme : Lexeme} (stands : lexeme.StandsIn text) :
    ∃ before rest, text = before ++ (lexeme.text ++ rest) ∧
      lexeme.offset = byteLength before ∧ Parts before (lexeme.text ++ rest) := by
  cases stands with
  | @run before run after cut nonempty letters begins ends =>
      refine ⟨before, after, by rw [cut, List.append_assoc]; rfl, rfl, fun c last letter => ?_⟩
      rw [begins c last] at letter
      contradiction
  | @other before after c cut notLetter =>
      have single : (⟨.ofOther c, byteLength before⟩ : Lexeme).text = [c] :=
        LexemeKind.text_ofOther c
      refine ⟨before, after, by rw [cut, single]; rfl, rfl, fun _ _ _ => ?_⟩
      rw [single]
      exact runEnds_cons notLetter

theorem standsIn_of_longestMatch (longest : kind.IsLongestMatch (kind.text ++ rest))
    (parts : Parts before (kind.text ++ rest)) :
    (⟨kind, byteLength before⟩ : Lexeme).StandsIn (before ++ (kind.text ++ rest)) := by
  obtain ⟨matched, ends⟩ := LexemeKind.isLongestMatch_append_iff.mp longest
  cases word : kind.isWord with
  | false =>
      obtain ⟨c, notLetter, rfl⟩ := LexemeKind.exists_ofOther matched word
      rw [LexemeKind.text_ofOther]
      exact .other rfl notLetter
  | true =>
      cases kind with
      | word run =>
          obtain ⟨nonempty, letters⟩ := matched
          rw [← List.append_assoc]
          refine .run rfl nonempty letters (fun c last => ?_) (ends rfl)
          -- A letter in front would belong to the same word.
          cases letter : isLetterOrNumber c with
          | false => rfl
          | true =>
              obtain ⟨d, others, rfl⟩ := List.exists_cons_of_ne_nil nonempty
              have stops : isLetterOrNumber d = false := parts c last letter d rfl
              rw [letters d List.mem_cons_self] at stops
              contradiction
      | _ => contradiction

end Lexeme

namespace LongestMatches

variable {offset : Nat} {text first second : List Char} {lexemes others : List Lexeme}

theorem drain (lexer : Lexer) : LongestMatches lexer.stop lexer.rest lexer.drain.1 := by
  induction lexer using Lexer.drain.induct with
  | case1 lexer after read =>
      have ended : lexer.rest = [] := Lexer.next_eq_none_iff.mp (by rw [read])
      rw [Lexer.drain_of_nil ended, ended]
      exact .done
  | case2 lexer lexeme after read _ ih =>
      obtain ⟨c, rest, remaining⟩ : ∃ c rest, lexer.rest = c :: rest := by
        apply List.exists_cons_of_ne_nil
        intro ended
        rw [Lexer.next_of_nil ended] at read
        cases read
      rw [Lexer.drain_of_next read]
      rw [Lexer.next_of_cons remaining] at read
      cases read
      have whole := LexemeKind.text_append_read c rest
      rw [remaining, ← whole]
      refine .take ?_ ih
      rw [whole]
      exact LexemeKind.isLongestMatch_iff.mpr rfl

theorem drain_eq (matched : LongestMatches offset text lexemes) (start : Nat) :
    (Lexer.drain ⟨start, offset, text⟩).1 = lexemes := by
  induction matched generalizing start with
  | done => rw [Lexer.drain_of_nil rfl]
  | @take offset kind rest lexemes longest behind ih =>
      obtain ⟨c, more, split⟩ :=
        List.exists_cons_of_ne_nil (LexemeKind.text_ne_nil longest.isMatch)
      have remaining : kind.text ++ rest = c :: (more ++ rest) := by rw [split, List.cons_append]
      have whole := LexemeKind.text_append_read c (more ++ rest)
      rw [remaining] at longest
      have same := LexemeKind.isLongestMatch_iff.mp longest
      rw [← same, ← remaining] at whole
      have left : (LexemeKind.read c (more ++ rest)).2 = rest := List.append_cancel_left whole
      rw [Lexer.drain_of_next (Lexer.next_of_cons remaining), ← same, left, ih]

theorem text_eq (matched : LongestMatches offset text lexemes) :
    lexemes.flatMap Lexeme.text = text := by
  induction matched with
  | done => rfl
  | take longest behind ih => rw [List.flatMap_cons, ih, Lexeme.text]

theorem consecutive (matched : LongestMatches offset text lexemes) :
    Consecutive offset lexemes := by
  induction matched with
  | done => trivial
  | take longest behind ih => exact ⟨rfl, ih⟩

theorem append (firstMatched : LongestMatches offset first lexemes)
    (secondMatched : LongestMatches (offset + byteLength first) second others)
    (parts : Parts first second) :
    LongestMatches offset (first ++ second) (lexemes ++ others) := by
  induction firstMatched with
  | done => exact secondMatched
  | @take offset kind rest lexemes longest behind ih =>
      obtain ⟨matched, ends⟩ := LexemeKind.isLongestMatch_append_iff.mp longest
      rw [byteLength_append, ← Nat.add_assoc] at secondMatched
      have later : Parts rest second := by
        intro c last
        apply parts c
        rw [List.getLast?_append, Option.mem_def.mp last]
        rfl
      rw [List.append_assoc, List.cons_append]
      refine .take (LexemeKind.isLongestMatch_append_iff.mpr ⟨matched, fun word => ?_⟩)
        (ih secondMatched later)
      cases rest with
      | nil =>
          have nonempty := LexemeKind.text_ne_nil matched
          have letter := LexemeKind.letters_of_isWord matched word _ (List.getLast_mem nonempty)
          rw [List.append_nil] at parts
          exact parts _ (List.getLast?_eq_some_getLast nonempty) letter
      | cons c more => exact fun d found => ends word d found

theorem standsIn {before : List Char} (matched : LongestMatches offset second lexemes)
    (place : offset = byteLength before) (parts : Parts before second) :
    ∀ lexeme ∈ lexemes, lexeme.StandsIn (before ++ second) := by
  induction matched generalizing before with
  | done => intro lexeme member; cases member
  | @take offset kind rest lexemes longest behind ih =>
      obtain ⟨matched, ends⟩ := LexemeKind.isLongestMatch_append_iff.mp longest
      intro lexeme member
      rcases List.mem_cons.mp member with rfl | later
      · rw [place]
        exact Lexeme.standsIn_of_longestMatch longest parts
      · rw [← List.append_assoc]
        refine ih (by rw [place, byteLength_append]) ?_ lexeme later
        intro d last letter
        rw [List.getLast?_append_of_ne_nil _ (LexemeKind.text_ne_nil matched)] at last
        exact ends (LexemeKind.isWord_of_getLast? matched last letter)

end LongestMatches

/-! ## The lexemes of a text -/

section Texts

variable {text : List Char} {lexemes : List Lexeme} {lexeme : Lexeme}

theorem longestMatches_iff : LongestMatches 0 text lexemes ↔ lexemes = lex text := by
  constructor
  · intro matched
    exact (matched.drain_eq 0).symm
  · rintro rfl
    exact .drain (Lexer.ofText text)

theorem longestMatches_of_standsIn {before : List Char}
    (split : text = before ++ lexemes.flatMap Lexeme.text)
    (consecutive : Consecutive (byteLength before) lexemes)
    (stands : ∀ lexeme ∈ lexemes, lexeme.StandsIn text) :
    LongestMatches (byteLength before) (lexemes.flatMap Lexeme.text) lexemes := by
  induction lexemes generalizing before with
  | nil => exact .done
  | cons lexeme others ih =>
      obtain ⟨place, behind⟩ := consecutive
      obtain ⟨lexemeStands, othersStand⟩ := List.forall_mem_cons.mp stands
      rw [List.flatMap_cons] at split ⊢
      have longest := lexemeStands.isLongestMatch split place
      obtain ⟨kind, offset⟩ := lexeme
      simp only at place
      subst place
      refine .take longest ?_
      rw [← byteLength_append] at behind ⊢
      exact ih (by rw [split, List.append_assoc]; rfl) behind othersStand

theorem mem_lex_iff : lexeme ∈ lex text ↔ lexeme.StandsIn text := by
  constructor
  · intro member
    exact (longestMatches_iff.mpr rfl).standsIn rfl (parts_nil text) lexeme member
  · intro stands
    obtain ⟨before, rest, rfl, place, parts⟩ := stands.exists_split
    have longest := stands.isLongestMatch rfl place
    obtain ⟨kind, offset⟩ := lexeme
    simp only at place
    subst place
    -- The text in front is lexed apart, so that the lexeme is the first one behind it.
    have front : LongestMatches 0 before (lex before) := longestMatches_iff.mpr rfl
    have behind := LongestMatches.drain ⟨0, byteLength before + byteLength kind.text, rest⟩
    have whole := front.append (by rw [Nat.zero_add]; exact .take longest behind) parts
    rw [← longestMatches_iff.mp whole]
    exact List.mem_append_right _ List.mem_cons_self

theorem lexedAs_iff : LexedAs text lexemes ↔ lexemes = lex text := by
  constructor
  · intro lexed
    have stands := fun lexeme => (lexed.mem_iff lexeme).mp
    have matched : LongestMatches (byteLength []) (lexemes.flatMap Lexeme.text) lexemes :=
      longestMatches_of_standsIn lexed.text_eq.symm lexed.consecutive stands
    rw [lexed.text_eq] at matched
    exact longestMatches_iff.mp matched
  · rintro rfl
    have matched : LongestMatches 0 text (lex text) := longestMatches_iff.mpr rfl
    exact ⟨matched.text_eq, matched.consecutive, fun lexeme => mem_lex_iff⟩

theorem lexesAsSymbol_iff_everywhere {c : Char} :
    lexesAsSymbol c = true ↔
      ∀ before after, (⟨.symbol c, byteLength before⟩ : Lexeme) ∈ lex (before ++ c :: after) := by
  rw [lexesAsSymbol_iff]
  constructor
  · intro symbol before after
    obtain ⟨opens, closes, notLetter⟩ := CharClass.of_eq_symbol_iff.mp symbol
    have kind : LexemeKind.ofOther c = .symbol c := by
      rw [LexemeKind.ofOther, if_neg opens, if_neg closes]
    rw [mem_lex_iff, ← kind]
    exact .other rfl notLetter
  · intro everywhere
    have alone := everywhere [] []
    rw [List.nil_append, lex_singleton, List.mem_singleton] at alone
    have kind : LexemeKind.symbol c = (LexemeKind.read c []).1 := congrArg Lexeme.kind alone
    have matched := LexemeKind.matches_read c []
    rw [← kind] at matched
    exact CharClass.of_eq_symbol_iff.mpr matched

/-- A text falls into lexemes in one way: its longest runs of letters and numbers and
its other characters, one by one.  They are what taking the longest match of a
pattern gives, and no surroundings change whether a character is a symbol. -/
theorem lex_cuts_text_in_one_way (text : List Char) (c : Char) :
    (∀ lexemes, LexedAs text lexemes ↔ lexemes = lex text) ∧
    (∀ lexemes, LongestMatches 0 text lexemes ↔ lexemes = lex text) ∧
    (lexesAsSymbol c = true ↔
      ∀ before after, (⟨.symbol c, byteLength before⟩ : Lexeme) ∈ lex (before ++ c :: after)) :=
  ⟨fun _ => lexedAs_iff, fun _ => longestMatches_iff, lexesAsSymbol_iff_everywhere⟩

end Texts

example : lex "é\u0301x\x7b".toList =
    [⟨.word ['é'], 0⟩, ⟨.symbol '\u0301', 2⟩, ⟨.word ['x'], 4⟩, ⟨.openBrace, 5⟩] := by
  decide +kernel

end CompositeKey
