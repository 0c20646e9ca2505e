import CompositeKey.Proofs.Template.Failure
import CompositeKey.Proofs.Template.Ranges

/-!
# Failing at the leftmost malformed construct

The error of a template stands in the construct that is malformed, the text in
front of that construct is a template of its own, and more text behind it changes
nothing.
-/

set_option autoImplicit false

namespace CompositeKey

def lastOpenBrace? : List Char → Option Nat
  | [] => none
  | c :: rest =>
      match lastOpenBrace? rest with
      | some offset => some (c.utf8Size + offset)
      | none => if c = '{' then some 0 else none

def openBraceBefore? (text : List Char) (offset : Nat) : Option Nat :=
  (splitAtByte? text offset).bind fun parts => lastOpenBrace? parts.1

/-- Where the construct begins that an error is about.  The range of an error is
the whole construct, but for two errors that are about a place inside a property. -/
def TokenizeError.constructStart? (text : List Char) : TokenizeError → Option Nat
  | .emptyTemplate => none
  | .invalidPrimarySeparator _ => none
  | .nestedPropertyOpen range => openBraceBefore? text range.start
  | .trailingRepeatingText _ range => openBraceBefore? text range.start
  | failure => failure.range?.map TextRange.start

theorem lastOpenBrace?_eq_none {text : List Char} (absent : '{' ∉ text) :
    lastOpenBrace? text = none := by
  induction text with
  | nil => rfl
  | cons c rest ih =>
      simp only [List.mem_cons, not_or] at absent
      simp [lastOpenBrace?, ih absent.2, Ne.symm absent.1]

theorem lastOpenBrace?_append {before after : List Char} (absent : '{' ∉ after) :
    lastOpenBrace? (before ++ '{' :: after) = some (byteLength before) := by
  induction before with
  | nil => simp [lastOpenBrace?, lastOpenBrace?_eq_none absent]
  | cons c rest ih => simp [lastOpenBrace?, ih]

theorem openBraceBefore?_append {before inside after : List Char} (absent : '{' ∉ inside) :
    openBraceBefore? (before ++ '{' :: inside ++ after) (byteLength (before ++ '{' :: inside)) =
      some (byteLength before) := by
  have split : splitAtByte? (before ++ '{' :: inside ++ after)
      (byteLength (before ++ '{' :: inside)) = some (before ++ '{' :: inside, after) :=
    splitAtByte?_eq_some_iff.mpr ⟨rfl, rfl⟩
  rw [openBraceBefore?, split, Option.bind_some, lastOpenBrace?_append absent]

/-- An error is about a piece at the front of its construct, or about a piece of a
property behind the opening brace. -/
inductive Located (offset : Nat) (construct : List Char) (failure : TokenizeError) : Prop where
  | atFront {piece rest : List Char} (split : construct = piece ++ rest)
      (range : failure.range? = some (TextRange.ofLength offset (byteLength piece)))
      (start : ∀ text, failure.constructStart? text = failure.range?.map TextRange.start)
  | inProperty {inside piece rest : List Char} (split : construct = '{' :: inside ++ piece ++ rest)
      (free : '{' ∉ inside)
      (range : failure.range? = some
        (TextRange.ofLength (offset + byteLength ('{' :: inside)) (byteLength piece)))
      (start : ∀ text, failure.constructStart? text =
        failure.range?.bind fun range => openBraceBefore? text range.start)

theorem byteLength_openBrace_cons (text : List Char) :
    byteLength ('{' :: text) = 1 + byteLength text := rfl

theorem byteLength_braced (text : List Char) :
    byteLength ('{' :: text ++ ['}']) = byteLength text + 2 := by
  have closes : byteLength ['}'] = 1 := rfl
  rw [byteLength_append, byteLength_openBrace_cons, closes]
  omega

theorem located_of_refusal {offset : Nat} {text rest : List Char} {failure : TokenizeError}
    (free : BraceFree text)
    (refusal : PropertyBody.Refusal
      ⟨text, offset + 1, TextRange.ofLength offset (byteLength text + 2)⟩ failure) :
    Located offset ('{' :: text ++ '}' :: rest) failure := by
  have whole : '{' :: text ++ '}' :: rest = ('{' :: text ++ ['}']) ++ rest := by simp
  have range : TextRange.ofLength offset (byteLength text + 2) =
      TextRange.ofLength offset (byteLength ('{' :: text ++ ['}'])) := by
    rw [byteLength_braced]
  cases refusal with
  | emptyName => exact .atFront whole (congrArg some range) fun _ => rfl
  | emptyFormat name => exact .atFront whole (congrArg some range) fun _ => rfl
  | missingSeparator name => exact .atFront whole (congrArg some range) fun _ => rfl
  | @trailingText name front trailing split =>
      simp only at split
      subst split
      have inside : '{' ∉ front := (braceFree_append.mp free).1.1
      have cut : '{' :: (front ++ trailing) ++ '}' :: rest =
          '{' :: front ++ trailing ++ '}' :: rest := by simp
      refine .inProperty cut inside ?_ fun _ => rfl
      rw [byteLength_openBrace_cons, ← Nat.add_assoc]
      rfl

theorem Malformed.located {separator : Option Char} {seen : Bool} {offset : Nat}
    {construct : List Char} {failure : TokenizeError}
    (malformed : Malformed separator seen offset construct failure) :
    Located offset construct failure := by
  cases malformed with
  | @duplicate c rest configured again =>
      have cut : c :: rest = [c] ++ rest := rfl
      exact .atFront cut rfl fun _ => rfl
  | @unterminated text free =>
      have cut : '{' :: text = [] ++ '{' :: text := rfl
      exact .atFront cut rfl fun _ => rfl
  | @nested text rest free =>
      have cut : '{' :: text ++ '{' :: rest = '{' :: text ++ ['{'] ++ rest := by simp
      refine .inProperty cut free.1 ?_ fun _ => rfl
      rw [byteLength_openBrace_cons, ← Nat.add_assoc]
      rfl
  | property free refused => exact located_of_refusal free (PropertyBody.refusal_of_token refused)

namespace Located

variable {before construct : List Char} {failure : TokenizeError}

theorem isWithin (located : Located (byteLength before) construct failure)
    (small : byteLength (before ++ construct) ≤ maxOffset) :
    ∀ range ∈ failure.range?, range.IsWithin (before ++ construct) := by
  intro range found
  rw [Option.mem_def] at found
  cases located with
  | @atFront piece rest split same start =>
      rw [same] at found
      cases found
      subst split
      rw [← List.append_assoc] at small ⊢
      exact isWithin_of_slice? (slice?_ofLength small)
  | @inProperty inside piece rest split free same start =>
      rw [same] at found
      cases found
      subst split
      have whole : before ++ ('{' :: inside ++ piece ++ rest) =
          before ++ '{' :: inside ++ piece ++ rest := by simp
      rw [whole] at small ⊢
      rw [← byteLength_append]
      exact isWithin_of_slice? (slice?_ofLength small)

theorem constructStart? (located : Located (byteLength before) construct failure)
    (small : byteLength (before ++ construct) ≤ maxOffset) :
    failure.constructStart? (before ++ construct) = some (byteLength before) := by
  cases located with
  | @atFront piece rest split range start =>
      rw [byteLength_append] at small
      have begins : clampOffset (byteLength before) = byteLength before :=
        clampOffset_of_le (by omega)
      rw [start, range]
      exact congrArg some begins
  | @inProperty inside piece rest split free range start =>
      subst split
      have whole : before ++ ('{' :: inside ++ piece ++ rest) =
          before ++ '{' :: inside ++ (piece ++ rest) := by simp
      rw [whole, byteLength_append] at small
      have begins : clampOffset (byteLength (before ++ '{' :: inside)) =
          byteLength (before ++ '{' :: inside) := clampOffset_of_le (by omega)
      rw [start, range, ← byteLength_append, whole]
      simp only [Option.bind_some, TextRange.ofLength, begins]
      exact openBraceBefore?_append free

end Located

/-! ## Templates -/

section Templates

variable {template : String} {separator : Option Char} {failure : TokenizeError}

theorem tokenize_append_of_error (failed : tokenize template separator = .error failure)
    (present : failure ≠ .emptyTemplate)
    (closed : ∀ start, failure ≠ .unterminatedProperty start) (more : String) :
    tokenize (template ++ more) separator = .error failure := by
  rcases tokenize_eq_error_iff.mp failed with
    ⟨_, empty⟩ | ⟨nonempty, c, rfl, invalid, rfl⟩ | ⟨usable, before, construct, tokens, fails⟩
  · exact absurd empty present
  · apply tokenize_of_unusable _ invalid
    intro empty
    exact nonempty (String.append_eq_empty_iff.mp empty).1
  · have split : (template ++ more).toList = before ++ (construct ++ more.toList) := by
      rw [String.toList_append, fails.split, List.append_assoc]
    have malformed := fails.malformed.append closed more.toList
    exact tokenize_of_failsAt usable ⟨split, fails.reading, malformed⟩

theorem isWithin_of_tokenize_error (small : byteLength template.toList ≤ maxOffset)
    (failed : tokenize template separator = .error failure) :
    ∀ range ∈ failure.range?, range.IsWithin template.toList := by
  rcases tokenize_eq_error_iff.mp failed with
    ⟨_, rfl⟩ | ⟨_, c, _, _, rfl⟩ | ⟨_, before, construct, tokens, fails⟩
  · intro range found
    cases found
  · intro range found
    cases found
  · rw [fails.split] at small ⊢
    exact fails.malformed.located.isWithin small

theorem exists_front_of_tokenize_error (small : byteLength template.toList ≤ maxOffset)
    (failed : tokenize template separator = .error failure) (present : failure ≠ .emptyTemplate)
    (valid : ∀ c, failure ≠ .invalidPrimarySeparator c) :
    ∃ front rest, template.toList = front ++ rest ∧
      failure.constructStart? template.toList = some (byteLength front) ∧
      (front = [] ∨ ∃ tokens, tokenize (String.ofList front) separator = .ok tokens) := by
  rcases tokenize_eq_error_iff.mp failed with
    ⟨_, empty⟩ | ⟨_, c, _, _, invalid⟩ | ⟨usable, before, construct, tokens, fails⟩
  · exact absurd empty present
  · exact absurd invalid (valid c)
  · refine ⟨before, construct, fails.split, ?_, ?_⟩
    · rw [fails.split] at small ⊢
      exact fails.malformed.located.constructStart? small
    · rcases tokenize_of_reading usable fails.reading with ⟨empty, _⟩ | run
      · exact .inl empty
      · exact .inr ⟨tokens, run⟩

/-- Reading a template stops at its leftmost malformed construct.  Whatever follows
a construct that is closed, the error is the same; the range of an error can be cut
out of the template; and what stands in front of the construct can be read. -/
theorem tokenize_fails_at_leftmost_construct (small : byteLength template.toList ≤ maxOffset)
    (failed : tokenize template separator = .error failure) (present : failure ≠ .emptyTemplate) :
    ((∀ start, failure ≠ .unterminatedProperty start) →
      ∀ more, tokenize (template ++ more) separator = .error failure) ∧
    (∀ range ∈ failure.range?, range.IsWithin template.toList) ∧
    ((∀ c, failure ≠ .invalidPrimarySeparator c) →
      ∃ front rest, template.toList = front ++ rest ∧
        failure.constructStart? template.toList = some (byteLength front) ∧
        (front = [] ∨ ∃ tokens, tokenize (String.ofList front) separator = .ok tokens)) :=
  ⟨tokenize_append_of_error failed present, isWithin_of_tokenize_error small failed,
    exists_front_of_tokenize_error small failed present⟩

end Templates

theorem tags_template_fails_at_property :
    tokenize "é|{Tags...→xy}" (some '|') =
        .error (.trailingRepeatingText "Tags" (TextRange.ofLength 14 2)) ∧
      tokenize ("é|{Tags...→xy}" ++ "|\x7b") (some '|') =
        .error (.trailingRepeatingText "Tags" (TextRange.ofLength 14 2)) ∧
      (TextRange.ofLength 14 2).IsWithin "é|{Tags...→xy}".toList ∧
      ∃ front rest, "é|{Tags...→xy}".toList = front ++ rest ∧
        (TokenizeError.trailingRepeatingText "Tags" (TextRange.ofLength 14 2)).constructStart?
          "é|{Tags...→xy}".toList = some (byteLength front) ∧
        (front = [] ∨ ∃ tokens, tokenize (String.ofList front) (some '|') = .ok tokens) := by
  have failed : tokenize "é|{Tags...→xy}" (some '|') =
      .error (.trailingRepeatingText "Tags" (TextRange.ofLength 14 2)) := by
    decide +kernel
  obtain ⟨stable, within, front⟩ :=
    tokenize_fails_at_leftmost_construct (by decide +kernel) failed (by simp)
  exact ⟨failed, stable (by simp) "|\x7b", within _ rfl, front (by simp)⟩

end CompositeKey
