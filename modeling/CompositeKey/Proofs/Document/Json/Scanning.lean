import CompositeKey.Document.Json.Token
import CompositeKey.Proofs.Text.Span

/-!
# Reading tokens that were written

A token is read back from its own text.  The text behind it does not matter, unless
it goes on with a number that the token ends with.
-/

set_option autoImplicit false

namespace CompositeKey

theorem hexValue?_hexDigit : ∀ value < 16, hexValue? (hexDigit value) = some value := by
  decide

section Units

variable (rest : List Char)

theorem readUnits_shortEscape {escape value : Char} (stands : shortEscape? escape = some value) :
    readUnits ('\\' :: escape :: rest) =
      (readUnits rest).map fun found => (value.toNat :: found.1, found.2) := by
  have other : escape ≠ 'u' := by
    intro same
    rw [same] at stands
    cases stands
  cases behind : readUnits rest <;> simp [readUnits, other, stands, behind]

theorem readUnits_hexEscape {first second third fourth : Char} {a b c d : Nat}
    (firstValue : hexValue? first = some a) (secondValue : hexValue? second = some b)
    (thirdValue : hexValue? third = some c) (fourthValue : hexValue? fourth = some d) :
    readUnits ('\\' :: 'u' :: first :: second :: third :: fourth :: rest) =
      (readUnits rest).map fun found =>
        (((a * 16 + b) * 256 + (c * 16 + d)) :: found.1, found.2) := by
  cases behind : readUnits rest <;>
    simp [readUnits, firstValue, secondValue, thirdValue, fourthValue, behind]

theorem readUnits_quote : readUnits ('"' :: rest) = some ([], rest) := by
  rw [readUnits.eq_def]
  rfl

theorem readUnits_unescaped {c : Char} (quote : c ≠ '"') (backslash : c ≠ '\\')
    (visible : ¬ c.toNat < 0x20) :
    readUnits (c :: rest) = (readUnits rest).map fun found => (c.toNat :: found.1, found.2) := by
  rw [readUnits.eq_def]
  cases behind : readUnits rest <;> simp [quote, backslash, visible, behind]

theorem readUnits_escapedChar (c : Char) :
    readUnits (escapedChar c ++ rest) =
      (readUnits rest).map fun found => (c.toNat :: found.1, found.2) := by
  unfold escapedChar
  iterate 7
    split
    · subst c
      exact readUnits_shortEscape rest rfl
  split
  · have zero : hexValue? '0' = some 0 := rfl
    have high := hexValue?_hexDigit (c.toNat / 16) (by omega)
    have low := hexValue?_hexDigit (c.toNat % 16) (by omega)
    have whole : (0 * 16 + 0) * 256 + (c.toNat / 16 * 16 + c.toNat % 16) = c.toNat := by omega
    have read := readUnits_hexEscape rest zero zero high low
    rw [whole] at read
    exact read
  · exact readUnits_unescaped rest ‹_› ‹_› ‹_›

theorem readUnits_escaped (text : List Char) :
    readUnits (text.flatMap escapedChar ++ '"' :: rest) = some (text.map Char.toNat, rest) := by
  induction text with
  | nil => exact readUnits_quote rest
  | cons c text ih =>
      rw [List.flatMap_cons, List.append_assoc, readUnits_escapedChar, ih]
      rfl

end Units

theorem textOfUnits_cons (c : Char) (units : List Nat) :
    textOfUnits (c.toNat :: units) = (textOfUnits units).map (c :: ·) := by
  have whole : Char.ofNat c.toNat = c := Char.ofNat_toNat c
  have valid : c.toNat < 0xD800 ∨ 0xDFFF < c.toNat := by
    obtain low | high := c.valid
    · exact .inl low
    · exact .inr high.1
  cases units with
  | nil =>
      have alone : ¬ (0xD800 ≤ c.toNat ∧ c.toNat < 0xE000) := by omega
      simp only [textOfUnits, if_neg alone, whole, Option.map_some]
  | cons low rest =>
      have notHigh : ¬ (0xD800 ≤ c.toNat ∧ c.toNat < 0xDC00) := by omega
      have notLow : ¬ (0xDC00 ≤ c.toNat ∧ c.toNat < 0xE000) := by omega
      simp only [textOfUnits, if_neg notHigh, if_neg notLow, whole]

theorem textOfUnits_map_toNat (text : List Char) :
    textOfUnits (text.map Char.toNat) = some text := by
  induction text with
  | nil => rfl
  | cons c text ih =>
      rw [List.map_cons, textOfUnits_cons, ih]
      rfl

theorem head?_toDigits_ne {value : Nat} (positive : 0 < value) :
    (Nat.toDigits 10 value).head? ≠ some '0' := by
  induction value using Nat.strong_induction_on with
  | _ value ih =>
      by_cases small : value < 10
      · have nonzero : ∀ digit < 10, 0 < digit → Nat.digitChar digit ≠ '0' := by decide
        rw [Nat.toDigits_of_lt_base small, List.head?_cons, ne_eq, Option.some.injEq]
        exact nonzero value small positive
      · have first := ih (value / 10) (by omega) (by omega)
        rw [Nat.toDigits_of_base_le (by decide) (by omega)]
        cases begun : Nat.toDigits 10 (value / 10) with
        | nil => exact absurd begun Nat.toDigits_ne_nil
        | cons c rest =>
            rw [begun] at first
            exact first

theorem isDigit_of_mem_toDigits (value : Nat) :
    ∀ c ∈ Nat.toDigits 10 value, c.isDigit = true :=
  fun _ => Nat.isDigit_of_mem_toDigits (by decide) (by decide)

theorem isIntegerPart_toDigits (value : Nat) : isIntegerPart (Nat.toDigits 10 value) = true := by
  rcases Nat.eq_zero_or_pos value with zero | positive
  · rw [zero]
    rfl
  · have digits := isDigit_of_mem_toDigits value
    have first := head?_toDigits_ne positive
    cases written : Nat.toDigits 10 value with
    | nil => exact absurd written Nat.toDigits_ne_nil
    | cons c rest =>
        rw [written] at digits first
        have nonzero : c ≠ '0' := fun same => first (congrArg some same)
        simpa [isIntegerPart, nonzero] using digits

theorem readUnsigned_toDigits (negative : Bool) (literal : List Char) {value : Nat}
    (signed : negative = true → 0 < value) :
    readUnsigned negative literal (Nat.toDigits 10 value) =
      some (.integer (if negative then -(value : Int) else value)) := by
  have digits := isDigit_of_mem_toDigits value
  have taken := List.takeWhile_eq_self_iff.mpr digits
  have left := List.dropWhile_eq_nil_iff.mpr digits
  have same : Nat.ofDigitChars 10 (Nat.toDigits 10 value) 0 = value :=
    Nat.ofDigitChars_toDigits (by decide) (by decide)
  have kept : (negative && value == 0) = false := by
    cases negative with
    | false => rfl
    | true =>
        have positive := signed rfl
        simp only [Bool.true_and, beq_eq_false_iff_ne]
        omega
  simp [readUnsigned, taken, left, same, kept, isIntegerPart_toDigits]

theorem readNumber_integer (value : Int) :
    readNumber (JsonToken.integer value).text = some (.integer value) := by
  cases value with
  | ofNat value =>
      have unsigned : ∀ rest, Nat.toDigits 10 value ≠ '-' :: rest := by
        intro rest same
        have digit := isDigit_of_mem_toDigits value '-' (same ▸ List.mem_cons_self)
        cases digit
      rw [JsonToken.text, readNumber.eq_2 _ unsigned]
      exact readUnsigned_toDigits false _ (fun negative => absurd negative Bool.false_ne_true)
  | negSucc value =>
      exact readUnsigned_toDigits true _ (fun _ => Nat.succ_pos value)

theorem isNumberChar_of_mem_integer (value : Int) :
    ∀ c ∈ (JsonToken.integer value).text, isNumberChar c = true := by
  have number : ∀ digits : Nat, ∀ c ∈ Nat.toDigits 10 digits, isNumberChar c = true := by
    intro digits c member
    simp [isNumberChar, isDigit_of_mem_toDigits digits c member]
  cases value with
  | ofNat value => exact number value
  | negSucc value => exact List.forall_mem_cons.mpr ⟨rfl, number (value + 1)⟩

/-! ## Tokens -/

namespace JsonToken

theorem readPlain_number {c : Char} (number : isNumberChar c = true) (rest : List Char) :
    readPlain c rest =
      (readNumber (c :: rest.takeWhile isNumberChar)).map fun token =>
        (token, rest.dropWhile isNumberChar) := by
  unfold readPlain
  split
  · cases number
  · cases number
  · cases number
  · rfl

theorem read_number {c : Char} (number : isNumberChar c = true) (rest : List Char) :
    isBlank c = false ∧ read c rest = readPlain c rest := by
  have stops : (['[', ']', '{', '}', ',', ':', '"', ' ', '\n', '\t', '\r'].all
      fun d => !isNumberChar d) = true := rfl
  have other : ∀ d ∈ ['[', ']', '{', '}', ',', ':', '"', ' ', '\n', '\t', '\r'], c ≠ d := by
    intro d member same
    have stop := List.all_eq_true.mp stops d member
    rw [← same, number] at stop
    cases stop
  simp only [List.forall_mem_cons] at other
  constructor
  · simp [isBlank, other]
  · simp [read, punctuation?, other]

theorem ofText_blank {c : Char} (blank : isBlank c = true) (rest : List Char) :
    ofText (c :: rest) = ofText rest := by
  rw [ofText, if_pos blank]

theorem ofText_of_read {c : Char} {rest after : List Char} {token : JsonToken}
    (dark : isBlank c = false) (found : read c rest = some (token, after)) :
    ofText (c :: rest) = (ofText after).map (token :: ·) := by
  rw [ofText, if_neg (by simp [dark])]
  split
  · rename_i missing
    rw [found] at missing
    cases missing
  · rename_i other
    rw [found] at other
    cases other
    rfl

theorem plain_of_punctuation {c : Char} {token : JsonToken} (found : punctuation? c = some token) :
    isBlank c = false ∧ isNumberChar c = false := by
  unfold punctuation? at found
  iterate 6
    split at found
    · subst c
      exact ⟨rfl, rfl⟩
  cases found

theorem ofText_punctuation {c : Char} {token : JsonToken} (found : punctuation? c = some token)
    (rest : List Char) : ofText (c :: rest) = (ofText rest).map (token :: ·) := by
  have read : read c rest = some (token, rest) := by
    rw [JsonToken.read, found]
  exact ofText_of_read (plain_of_punctuation found).1 read

abbrev NumberEnds (rest : List Char) : Prop := RunEnds isNumberChar rest

theorem numberEnds_punctuation {c : Char} {token : JsonToken} (found : punctuation? c = some token)
    {rest : List Char} : NumberEnds (c :: rest) :=
  runEnds_cons (plain_of_punctuation found).2

theorem numberEnds_blank {gap : List Char} (blank : ∀ c ∈ gap, isBlank c = true) :
    NumberEnds gap := by
  intro c found
  have member := blank c (List.mem_of_mem_head? found)
  simp only [isBlank, Bool.or_eq_true, beq_iff_eq] at member
  obtain ((same | same) | same) | same := member <;> rw [same] <;> rfl

theorem ofText_integer (value : Int) {rest : List Char} (ends : NumberEnds rest) :
    ofText ((integer value).text ++ rest) = (ofText rest).map (.integer value :: ·) := by
  have number := readNumber_integer value
  have digits := isNumberChar_of_mem_integer value
  cases written : (integer value).text with
  | nil =>
      rw [written] at number
      cases number
  | cons c others =>
      rw [written] at number digits
      obtain ⟨first, behind⟩ := List.forall_mem_cons.mp digits
      obtain ⟨dark, plain⟩ := read_number first (others ++ rest)
      rw [List.cons_append]
      refine ofText_of_read dark ?_
      rw [plain, readPlain_number first, takeWhile_of_runEnds behind ends,
        dropWhile_of_runEnds behind ends, number]
      rfl

theorem read_string {rest after : List Char} {units : List Nat}
    (found : readUnits rest = some (units, after)) :
    read '"' rest = some (.string ((textOfUnits units).map String.ofList), after) := by
  simp [read, punctuation?, found]

theorem ofText_quoted (value : JsonText) (rest : List Char) :
    ofText (quoted value ++ rest) = (ofText rest).map (.string value :: ·) := by
  cases value with
  | none =>
      have surrogate : readUnits ('\\' :: 'u' :: 'd' :: '8' :: '0' :: '0' :: '"' :: rest) =
          some ([0xD800], rest) := by
        rw [readUnits_hexEscape ('"' :: rest) rfl rfl rfl rfl, readUnits_quote]
        rfl
      exact ofText_of_read rfl (read_string surrogate)
  | some value =>
      have written : quoted (some value) ++ rest =
          '"' :: (value.toList.flatMap escapedChar ++ '"' :: rest) := by
        simp [quoted]
      have same := read_string (readUnits_escaped rest value.toList)
      rw [textOfUnits_map_toNat, Option.map_some, String.ofList_toList] at same
      rw [written]
      exact ofText_of_read rfl same

/-- A text is read as these tokens wherever no number goes on behind it. -/
def ReadsAs (text : List Char) (tokens : List JsonToken) : Prop :=
  ∀ rest, NumberEnds rest → ofText (text ++ rest) = (ofText rest).map (tokens ++ ·)

namespace ReadsAs

variable {first second text : List Char} {tokens others : List JsonToken}

theorem nil : ReadsAs [] [] := by
  intro rest _
  simp

theorem cons {c : Char} {token : JsonToken} (found : punctuation? c = some token)
    (behind : ReadsAs text tokens) : ReadsAs (c :: text) (token :: tokens) := by
  intro rest ends
  rw [List.cons_append, ofText_punctuation found, behind rest ends, Option.map_map]
  rfl

theorem blank {gap : List Char} (blank : ∀ c ∈ gap, isBlank c = true)
    (behind : ReadsAs text tokens) : ReadsAs (gap ++ text) tokens := by
  intro rest ends
  induction gap with
  | nil => exact behind rest ends
  | cons c gap ih =>
      obtain ⟨head, tail⟩ := List.forall_mem_cons.mp blank
      rw [List.cons_append, List.cons_append, ofText_blank head]
      exact ih tail

theorem append (before : ReadsAs first tokens) (ends : NumberEnds second)
    (behind : ReadsAs second others) : ReadsAs (first ++ second) (tokens ++ others) := by
  intro rest follows
  rw [List.append_assoc, before _ (ends.append follows), behind rest follows, Option.map_map]
  congr 1
  funext found
  simp

theorem null : ReadsAs JsonToken.null.text [.null] := by
  intro rest _
  exact ofText_of_read rfl rfl

theorem bool (value : Bool) : ReadsAs (JsonToken.bool value).text [.bool value] := by
  intro rest _
  cases value <;> exact ofText_of_read rfl rfl

theorem integer (value : Int) : ReadsAs (JsonToken.integer value).text [.integer value] := by
  intro rest ends
  exact ofText_integer value ends

theorem string (value : JsonText) : ReadsAs (JsonToken.string value).text [.string value] := by
  intro rest _
  exact ofText_quoted value rest

theorem member {gap : List Char} (key : JsonText) (blank : ∀ c ∈ gap, isBlank c = true)
    (value : ReadsAs text tokens) :
    ReadsAs (quoted key ++ ':' :: (gap ++ text)) (.string key :: .colon :: tokens) :=
  (string key).append (runEnds_cons rfl) (cons rfl (value.blank blank))

section Sequences

variable {α : Type} {write : α → List Char} {tokensOf : α → List JsonToken} {gap : List Char}

theorem separated (blank : ∀ c ∈ gap, isBlank c = true) {values : List α}
    (read : ∀ value ∈ values, ReadsAs (write value) (tokensOf value)) :
    NumberEnds (values.flatMap fun value => ',' :: gap ++ write value) ∧
      ReadsAs (values.flatMap fun value => ',' :: gap ++ write value)
        (values.flatMap fun value => .comma :: tokensOf value) := by
  induction values with
  | nil => exact ⟨runEnds_nil, nil⟩
  | cons value rest ih =>
      obtain ⟨head, tail⟩ := List.forall_mem_cons.mp read
      obtain ⟨ends, behind⟩ := ih tail
      have first : ReadsAs (',' :: gap ++ write value) (.comma :: tokensOf value) :=
        cons rfl (head.blank blank)
      exact ⟨runEnds_cons rfl, first.append ends behind⟩

theorem enclosed {opening closing : Char} {start stop : JsonToken}
    (opens : punctuation? opening = some start) (closes : punctuation? closing = some stop)
    (blank : ∀ c ∈ gap, isBlank c = true) {inner : List Char}
    (blankInner : ∀ c ∈ inner, isBlank c = true)
    {first : α} {others : List α}
    (read : ∀ value ∈ first :: others, ReadsAs (write value) (tokensOf value)) :
    ReadsAs
      (opening :: gap ++ write first ++ (others.flatMap fun value => ',' :: gap ++ write value) ++
        inner ++ [closing])
      (start :: tokensOf first ++ (others.flatMap fun value => .comma :: tokensOf value) ++
        [stop]) := by
  obtain ⟨head, tail⟩ := List.forall_mem_cons.mp read
  obtain ⟨commaEnds, behind⟩ := separated blank tail
  have begun : ReadsAs (opening :: gap ++ write first) (start :: tokensOf first) :=
    cons opens (head.blank blank)
  have closed : ReadsAs (inner ++ [closing]) [stop] := (cons closes nil).blank blankInner
  have closedEnds : NumberEnds (inner ++ [closing]) :=
    (numberEnds_blank blankInner).append (numberEnds_punctuation closes)
  rw [List.append_assoc _ inner]
  exact (begun.append commaEnds behind).append closedEnds closed

end Sequences

end ReadsAs

end JsonToken

end CompositeKey
