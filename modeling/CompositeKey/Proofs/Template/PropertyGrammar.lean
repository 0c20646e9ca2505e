import CompositeKey.Proofs.Results
import CompositeKey.Template.PropertyText
import Mathlib.Data.List.Infix

/-!
# The grammar of a property

The texts that stand between the braces of a property, and that reading one of
them gives the single token it is the written form of.
-/

set_option autoImplicit false

namespace CompositeKey

def repeatMarker : List Char := ['.', '.', '.']

def BraceFree (text : List Char) : Prop := '{' ∉ text ∧ '}' ∉ text

instance (text : List Char) : Decidable (BraceFree text) :=
  inferInstanceAs (Decidable ('{' ∉ text ∧ '}' ∉ text))

structure IsPropertyName (text : List Char) : Prop where
  ne_nil : text ≠ []
  braceFree : BraceFree text
  no_colon : ':' ∉ text
  no_marker : ¬ repeatMarker <:+: text

instance (text : List Char) : Decidable (IsPropertyName text) :=
  decidable_of_iff
    (text ≠ [] ∧ BraceFree text ∧ ':' ∉ text ∧ ¬ repeatMarker <:+: text)
    ⟨fun ⟨nonempty, free, colon, marker⟩ => ⟨nonempty, free, colon, marker⟩,
      fun named => ⟨named.ne_nil, named.braceFree, named.no_colon, named.no_marker⟩⟩

def IsFormat (format : Option String) : Prop :=
  ∀ text ∈ format, text.toList ≠ [] ∧ BraceFree text.toList

instance (format : Option String) : Decidable (IsFormat format) :=
  inferInstanceAs (Decidable (∀ text ∈ format, text.toList ≠ [] ∧ BraceFree text.toList))

namespace TemplateToken

/-- A property that can be written.  The name of a repeating one does not end in
a dot, which would be read as the first dot of the marker. -/
def IsProperty : TemplateToken → Prop
  | .property name format => IsPropertyName name.toList ∧ IsFormat format
  | .repeatingProperty name separator format =>
      IsPropertyName name.toList ∧ name.toList.getLast? ≠ some '.' ∧
        (separator ≠ '{' ∧ separator ≠ '}') ∧ IsFormat format
  | _ => False

instance (value : TemplateToken) : Decidable value.IsProperty :=
  match value with
  | .property name format =>
      inferInstanceAs (Decidable (IsPropertyName name.toList ∧ IsFormat format))
  | .repeatingProperty name separator format =>
      inferInstanceAs (Decidable (IsPropertyName name.toList ∧ name.toList.getLast? ≠ some '.' ∧
        (separator ≠ '{' ∧ separator ≠ '}') ∧ IsFormat format))
  | .primaryDelimiter _ => isFalse id
  | .delimiter _ => isFalse id
  | .constant _ => isFalse id

def body : TemplateToken → List Char
  | .property name format => name.toList ++ writtenFormat format
  | .repeatingProperty name separator format =>
      name.toList ++ repeatMarker ++ separator :: writtenFormat format
  | _ => []

theorem written_of_isProperty {value : TemplateToken} (property : value.IsProperty) :
    value.written = '{' :: value.body ++ ['}'] := by
  cases value with
  | property name format => rfl
  | repeatingProperty name separator format => simp [written, body, repeatMarker]
  | _ => exact property.elim

end TemplateToken

theorem braceFree_append {first second : List Char} :
    BraceFree (first ++ second) ↔ BraceFree first ∧ BraceFree second := by
  simp only [BraceFree, List.mem_append, not_or]
  constructor
  · rintro ⟨⟨opensFirst, opensSecond⟩, closesFirst, closesSecond⟩
    exact ⟨⟨opensFirst, closesFirst⟩, opensSecond, closesSecond⟩
  · rintro ⟨⟨opensFirst, closesFirst⟩, opensSecond, closesSecond⟩
    exact ⟨⟨opensFirst, opensSecond⟩, closesFirst, closesSecond⟩

theorem braceFree_cons {c : Char} {text : List Char} :
    BraceFree (c :: text) ↔ (c ≠ '{' ∧ c ≠ '}') ∧ BraceFree text := by
  rw [← List.singleton_append, braceFree_append]
  simp [BraceFree, eq_comm]

theorem braceFree_iff_all {text : List Char} :
    BraceFree text ↔ ∀ c ∈ text, (!isBrace c) = true := by
  induction text with
  | nil => simp [BraceFree]
  | cons c rest ih => simp [braceFree_cons, ih, isBrace]

theorem braceFree_writtenFormat {format : Option String} :
    BraceFree (TemplateToken.writtenFormat format) ↔
      ∀ text, format = some text → BraceFree text.toList := by
  cases format with
  | none => simp [TemplateToken.writtenFormat, BraceFree]
  | some text => simp [TemplateToken.writtenFormat, braceFree_cons]

theorem TemplateToken.braceFree_body {value : TemplateToken} (property : value.IsProperty) :
    BraceFree value.body := by
  cases value with
  | property name format =>
      obtain ⟨named, formatted⟩ := property
      exact braceFree_append.mpr
        ⟨named.braceFree, braceFree_writtenFormat.mpr fun text found => (formatted text found).2⟩
  | repeatingProperty name separator format =>
      obtain ⟨named, _, separated, formatted⟩ := property
      have marker : BraceFree repeatMarker := by simp [BraceFree, repeatMarker]
      refine braceFree_append.mpr ⟨braceFree_append.mpr ⟨named.braceFree, marker⟩, ?_⟩
      exact braceFree_cons.mpr
        ⟨separated, braceFree_writtenFormat.mpr fun text found => (formatted text found).2⟩
  | _ => exact property.elim

theorem splitAtMarker_cons {c : Char} {rest : List Char}
    (other : ¬ repeatMarker <+: c :: rest) :
    splitAtMarker (c :: rest) =
      (splitAtMarker rest).map fun parts => (c :: parts.1, parts.2) := by
  rw [splitAtMarker.eq_def]
  split
  · contradiction
  · rename_i tail found
    exact absurd (found ▸ List.prefix_append repeatMarker tail) other
  · rename_i head tail _ found
    obtain ⟨rfl, rfl⟩ := List.cons.inj found
    rfl

/-- A marker does not begin in a text that holds none and does not end in a dot,
even when another marker follows. -/
theorem not_startsAtMarker {before after : List Char} (nonempty : before ≠ [])
    (free : ¬ repeatMarker <:+: before) (ends : before.getLast? ≠ some '.') :
    ¬ repeatMarker <+: before ++ repeatMarker ++ after := by
  intro starts
  match before with
  | [] => exact nonempty rfl
  | [first] =>
      simp only [repeatMarker, List.cons_append, List.cons_prefix_cons] at starts
      exact ends (congrArg some starts.1.symm)
  | [first, second] =>
      simp only [repeatMarker, List.cons_append, List.cons_prefix_cons] at starts
      exact ends (congrArg some starts.2.1.symm)
  | first :: second :: third :: rest =>
      simp only [repeatMarker, List.cons_append, List.cons_prefix_cons] at starts
      obtain ⟨rfl, rfl, rfl, _⟩ := starts
      exact free (List.prefix_append repeatMarker rest).isInfix

/-- The split is at the first marker: none stands in `before`, and none begins
with a dot at its end. -/
theorem splitAtMarker_eq_some_iff {text before after : List Char} :
    splitAtMarker text = some (before, after) ↔
      text = before ++ repeatMarker ++ after ∧ ¬ repeatMarker <:+: before ∧
        before.getLast? ≠ some '.' := by
  induction text generalizing before with
  | nil => simp [splitAtMarker, repeatMarker]
  | cons c rest ih =>
      -- Either a marker begins at `c`, and the split is here, or the text behind
      -- `c` is split and `c` goes in front.
      by_cases starts : repeatMarker <+: c :: rest
      · obtain ⟨tail, split⟩ := starts
        have reads : splitAtMarker (c :: rest) = some ([], tail) := by rw [← split]; rfl
        rw [reads, Option.some.injEq, Prod.mk.injEq]
        constructor
        · rintro ⟨rfl, rfl⟩
          exact ⟨split.symm, by simp [repeatMarker], by simp⟩
        · rintro ⟨whole, free, ends⟩
          rw [whole] at split
          by_cases empty : before = []
          · subst empty
            exact ⟨rfl, List.append_cancel_left split⟩
          · exact absurd ⟨tail, split⟩ (not_startsAtMarker empty free ends)
      · rw [splitAtMarker_cons starts, Option.map_eq_some_iff]
        constructor
        · rintro ⟨⟨first, last⟩, found, same⟩
          obtain ⟨rfl, rfl⟩ := Prod.mk.inj same
          obtain ⟨whole, free, ends⟩ := ih.mp found
          refine ⟨by rw [whole]; rfl, ?_, ?_⟩
          · intro inside
            rcases List.infix_cons_iff.mp inside with atStart | later
            · apply starts
              rw [whole, List.append_assoc, ← List.cons_append]
              exact atStart.trans (List.prefix_append _ _)
            · exact free later
          -- A single dot in front of the marker would make it begin one earlier.
          · cases first with
            | nil =>
                intro dot
                have isDot : c = '.' := by simpa using dot
                subst isDot whole
                exact starts ⟨'.' :: last, rfl⟩
            | cons d others => rwa [List.getLast?_cons_cons]
        · rintro ⟨whole, free, ends⟩
          cases before with
          | nil => exact absurd ⟨after, whole.symm⟩ starts
          | cons d others =>
              obtain ⟨rfl, split⟩ := List.cons.inj whole
              refine ⟨(others, after), ih.mpr ⟨split, ?_, ?_⟩, rfl⟩
              · exact fun inside => free (List.infix_cons inside)
              · cases others with
                | nil => simp
                | cons e more => rwa [List.getLast?_cons_cons] at ends

theorem splitAtMarker_eq_none_iff {text : List Char} :
    splitAtMarker text = none ↔ ¬ repeatMarker <:+: text := by
  induction text with
  | nil => simp [splitAtMarker, repeatMarker]
  | cons c rest ih =>
      by_cases starts : repeatMarker <+: c :: rest
      · obtain ⟨tail, split⟩ := starts
        have inside : repeatMarker <:+: c :: rest := ⟨[], tail, split⟩
        have reads : splitAtMarker (c :: rest) = some ([], tail) := by rw [← split]; rfl
        simp [reads, inside]
      · rw [splitAtMarker_cons starts, Option.map_eq_none_iff, ih, List.infix_cons_iff]
        simp [starts]

theorem splitAtColon_eq_iff {text before : List Char} {after : Option (List Char)} :
    splitAtColon text = (before, after) ↔
      text = before ++ TemplateToken.writtenFormat (after.map String.ofList) ∧
        ':' ∉ before := by
  induction text generalizing before with
  | nil =>
      cases after <;> cases before <;>
        simp [splitAtColon, TemplateToken.writtenFormat, eq_comm]
  | cons c rest ih =>
      by_cases colon : c = ':'
      · subst colon
        rw [splitAtColon, if_pos rfl, Prod.mk.injEq]
        constructor
        · rintro ⟨rfl, rfl⟩
          simp [TemplateToken.writtenFormat]
        · rintro ⟨whole, free⟩
          cases before with
          | nil =>
              cases after with
              | none => simp [TemplateToken.writtenFormat] at whole
              | some text =>
                  simp only [TemplateToken.writtenFormat, Option.map_some, List.nil_append,
                    String.toList_ofList, List.cons.injEq, true_and] at whole
                  exact ⟨rfl, congrArg some whole⟩
          | cons d others =>
              obtain ⟨rfl, _⟩ := List.cons.inj whole
              simp at free
      · rw [splitAtColon, if_neg colon, Prod.mk.injEq]
        constructor
        · rintro ⟨rfl, behind⟩
          have found : splitAtColon rest = ((splitAtColon rest).1, after) := by rw [← behind]
          obtain ⟨whole, free⟩ := ih.mp found
          refine ⟨by rw [List.cons_append, ← whole], ?_⟩
          simp [free, Ne.symm colon]
        · rintro ⟨whole, free⟩
          cases before with
          | nil =>
              cases after with
              | none => simp [TemplateToken.writtenFormat] at whole
              | some text =>
                  simp only [TemplateToken.writtenFormat, Option.map_some, List.nil_append,
                    List.cons.injEq] at whole
                  exact absurd whole.1 colon
          | cons d others =>
              obtain ⟨rfl, split⟩ := List.cons.inj whole
              have found := ih.mpr ⟨split, fun member => free (List.mem_cons_of_mem _ member)⟩
              rw [found]
              exact ⟨rfl, rfl⟩

/-! ## Reading a body -/

namespace PropertyBody

theorem name_ok_iff {body : PropertyBody} {text : List Char} {name : String} :
    body.name text = .ok name ↔ text ≠ [] ∧ name.toList = text := by
  cases text with
  | nil => simp [PropertyBody.name]
  | cons c rest =>
      simp only [PropertyBody.name, List.isEmpty_cons, Bool.false_eq_true, if_false,
        Except.ok.injEq, ne_eq, reduceCtorEq, not_false_eq_true, true_and]
      constructor
      · rintro rfl
        exact String.toList_ofList
      · intro same
        rw [← same, String.ofList_toList]

theorem format_ok_iff {body : PropertyBody} {name : String} {text : Option (List Char)}
    {format : Option String} :
    body.format name text = .ok format ↔
      format = text.map String.ofList ∧ ∀ found, format = some found → found.toList ≠ [] := by
  match text with
  | none =>
      simp only [PropertyBody.format, Except.ok.injEq, Option.map_none]
      constructor
      · rintro rfl
        simp
      · rintro ⟨rfl, _⟩
        rfl
  | some [] =>
      simp only [PropertyBody.format, reduceCtorEq, Option.map_some, false_iff, not_and]
      rintro rfl present
      exact present _ rfl rfl
  | some (c :: rest) =>
      simp only [PropertyBody.format, Except.ok.injEq, Option.map_some]
      constructor
      · rintro rfl
        simp
      · rintro ⟨rfl, _⟩
        rfl

theorem scalarToken_ok_iff {body : PropertyBody} {value : TemplateToken} :
    body.scalarToken = .ok value ↔
      ∃ name format, value = .property name format ∧ name.toList ≠ [] ∧ ':' ∉ name.toList ∧
        (∀ found, format = some found → found.toList ≠ []) ∧
        body.text = name.toList ++ TemplateToken.writtenFormat format := by
  rw [scalarToken, bind_eq_ok_iff]
  constructor
  · rintro ⟨name, named, read⟩
    obtain ⟨nonempty, same⟩ := name_ok_iff.mp named
    obtain ⟨format, formatted, result⟩ := bind_eq_ok_iff.mp read
    obtain ⟨formatSame, present⟩ := format_ok_iff.mp formatted
    obtain ⟨whole, free⟩ := splitAtColon_eq_iff.mp (rfl : splitAtColon body.text = (_, _))
    cases result
    rw [← same] at nonempty whole free
    rw [← formatSame] at whole
    exact ⟨name, format, rfl, nonempty, free, present, whole⟩
  · rintro ⟨name, format, rfl, nonempty, free, present, whole⟩
    have split : splitAtColon body.text = (name.toList, format.map String.toList) := by
      refine splitAtColon_eq_iff.mpr ⟨?_, free⟩
      cases format <;> simpa using whole
    refine ⟨name, name_ok_iff.mpr ?_, bind_eq_ok_iff.mpr ⟨format, format_ok_iff.mpr ?_, rfl⟩⟩
    · rw [split]
      exact ⟨nonempty, rfl⟩
    · rw [split]
      refine ⟨?_, present⟩
      cases format <;> simp

theorem repeatingToken_ok_iff {body : PropertyBody} {nameText after : List Char}
    {value : TemplateToken} :
    body.repeatingToken nameText after = .ok value ↔
      ∃ name separator format, value = .repeatingProperty name separator format ∧
        name.toList ≠ [] ∧ name.toList = nameText ∧
        (∀ found, format = some found → found.toList ≠ []) ∧
        after = separator :: TemplateToken.writtenFormat format := by
  rw [repeatingToken, bind_eq_ok_iff]
  constructor
  · rintro ⟨name, named, read⟩
    obtain ⟨nonempty, rfl⟩ := name_ok_iff.mp named
    match after with
    | [] => cases read
    | [separator] =>
        cases read
        exact ⟨name, separator, none, rfl, nonempty, rfl, by simp, rfl⟩
    | separator :: c :: rest =>
        by_cases colon : c = ':'
        · subst colon
          obtain ⟨format, formatted, result⟩ := bind_eq_ok_iff.mp read
          obtain ⟨rfl, present⟩ := format_ok_iff.mp formatted
          cases result
          refine ⟨name, separator, _, rfl, nonempty, rfl, present, ?_⟩
          simp [TemplateToken.writtenFormat]
        · simp [colon] at read
  · rintro ⟨name, separator, format, rfl, nonempty, rfl, present, rfl⟩
    refine ⟨name, name_ok_iff.mpr ⟨nonempty, rfl⟩, ?_⟩
    cases format with
    | none => rfl
    | some text =>
        refine bind_eq_ok_iff.mpr ⟨some text, format_ok_iff.mpr ⟨?_, present⟩, rfl⟩
        simp

/-- Of two splits of one text, at its first colon and at its first marker, the
one whose first part holds no colon comes first. -/
theorem no_marker_before_colon {name nameText after : List Char} {format : Option String}
    (split : name ++ TemplateToken.writtenFormat format = nameText ++ repeatMarker ++ after)
    (free : ':' ∉ name) (colon : ':' ∈ nameText) (first : ¬ repeatMarker <:+: nameText) :
    ¬ repeatMarker <:+: name := by
  have left : name <+: nameText ++ repeatMarker ++ after := ⟨_, split⟩
  have right : nameText <+: nameText ++ repeatMarker ++ after :=
    (List.prefix_append _ _).trans (List.prefix_append _ _)
  rcases List.prefix_or_prefix_of_prefix left right with shorter | longer
  · exact fun inside => first (inside.trans shorter.isInfix)
  · exact absurd (longer.subset colon) free

theorem colon_before_marker {name nameText after : List Char} {format : Option String}
    (split : name ++ TemplateToken.writtenFormat format = nameText ++ repeatMarker ++ after)
    (free : ¬ repeatMarker <:+: name) : ':' ∈ nameText := by
  have marker : repeatMarker <:+: nameText ++ repeatMarker := List.suffix_append _ _ |>.isInfix
  have right : nameText ++ repeatMarker <+: nameText ++ repeatMarker ++ after :=
    List.prefix_append _ _
  cases format with
  | none =>
      rw [TemplateToken.writtenFormat, List.append_nil] at split
      rw [← split] at right
      exact absurd (marker.trans right.isInfix) free
  | some text =>
      have left : name ++ [':'] <+: nameText ++ repeatMarker ++ after :=
        ⟨text.toList, by rw [← split]; simp [TemplateToken.writtenFormat]⟩
      rcases List.prefix_or_prefix_of_prefix left right with shorter | longer
      · have member : ':' ∈ nameText ++ repeatMarker := shorter.subset (by simp)
        simpa [repeatMarker] using member
      · rcases List.prefix_concat_iff.mp longer with same | inside
        · have ends := congrArg List.getLast? same
          simp [repeatMarker] at ends
        · exact absurd (marker.trans inside.isInfix) free

theorem isProperty_of_scalarToken {body : PropertyBody} {value : TemplateToken}
    (free : BraceFree body.text)
    (colon : ∀ before after, splitAtMarker body.text = some (before, after) → ':' ∈ before)
    (read : body.scalarToken = .ok value) : value.IsProperty ∧ value.body = body.text := by
  obtain ⟨name, format, rfl, nonempty, colonFree, present, whole⟩ := scalarToken_ok_iff.mp read
  have unmarked : ¬ repeatMarker <:+: name.toList := by
    cases found : splitAtMarker body.text with
    | none =>
        have prefixed : name.toList <+: body.text := ⟨_, whole.symm⟩
        exact fun inside => splitAtMarker_eq_none_iff.mp found (inside.trans prefixed.isInfix)
    | some parts =>
        obtain ⟨split, first, _⟩ := splitAtMarker_eq_some_iff.mp found
        exact no_marker_before_colon (whole.symm.trans split) colonFree (colon _ _ found) first
  rw [whole] at free
  obtain ⟨nameFree, formatFree⟩ := braceFree_append.mp free
  refine ⟨⟨⟨nonempty, nameFree, colonFree, unmarked⟩, ?_⟩, whole.symm⟩
  intro text found
  exact ⟨present text found, braceFree_writtenFormat.mp formatFree text found⟩

theorem isProperty_of_repeatingToken {body : PropertyBody} {value : TemplateToken}
    {before after : List Char} (free : BraceFree body.text)
    (found : splitAtMarker body.text = some (before, after)) (colon : ':' ∉ before)
    (read : body.repeatingToken before after = .ok value) :
    value.IsProperty ∧ value.body = body.text := by
  obtain ⟨name, separator, format, rfl, nonempty, rfl, present, rfl⟩ :=
    repeatingToken_ok_iff.mp read
  obtain ⟨split, first, ends⟩ := splitAtMarker_eq_some_iff.mp found
  rw [split] at free
  obtain ⟨frontFree, behindFree⟩ := braceFree_append.mp free
  obtain ⟨separated, formatFree⟩ := braceFree_cons.mp behindFree
  have named : IsPropertyName name.toList :=
    ⟨nonempty, (braceFree_append.mp frontFree).1, colon, first⟩
  refine ⟨⟨named, ends, separated, ?_⟩, split.symm⟩
  intro text found
  exact ⟨present text found, braceFree_writtenFormat.mp formatFree text found⟩

theorem token_of_isProperty {body : PropertyBody} {value : TemplateToken}
    (property : value.IsProperty) (same : value.body = body.text) : body.token = .ok value := by
  unfold PropertyBody.token
  cases value with
  | property name format =>
      obtain ⟨named, formatted⟩ := property
      have read : body.scalarToken = .ok (.property name format) :=
        scalarToken_ok_iff.mpr ⟨name, format, rfl, named.ne_nil, named.no_colon,
          fun text found => (formatted text found).1, same.symm⟩
      cases found : splitAtMarker body.text with
      | none => exact read
      | some parts =>
          obtain ⟨before, after⟩ := parts
          obtain ⟨split, _, _⟩ := splitAtMarker_eq_some_iff.mp found
          have colon : ':' ∈ before := colon_before_marker (same.trans split) named.no_marker
          simpa [colon] using read
  | repeatingProperty name separator format =>
      obtain ⟨named, ends, _, formatted⟩ := property
      have found : splitAtMarker body.text =
          some (name.toList, separator :: TemplateToken.writtenFormat format) :=
        splitAtMarker_eq_some_iff.mpr ⟨same.symm, named.no_marker, ends⟩
      have colon : name.toList.contains ':' = false := by
        simpa using named.no_colon
      simp only [found, colon]
      exact repeatingToken_ok_iff.mpr ⟨name, separator, format, rfl, named.ne_nil, rfl,
        fun text found => (formatted text found).1, rfl⟩
  | _ => exact property.elim

/-- A body without braces is read as the one property it is the text of. -/
theorem token_ok_iff {body : PropertyBody} {value : TemplateToken} (free : BraceFree body.text) :
    body.token = .ok value ↔ value.IsProperty ∧ value.body = body.text := by
  constructor
  · intro read
    unfold PropertyBody.token at read
    cases found : splitAtMarker body.text with
    | none =>
        rw [found] at read
        exact isProperty_of_scalarToken free (by simp [found]) read
    | some parts =>
        obtain ⟨before, after⟩ := parts
        simp only [found] at read
        by_cases colon : ':' ∈ before
        · rw [if_pos (List.contains_iff_mem.mpr colon)] at read
          refine isProperty_of_scalarToken free ?_ read
          intro first last same
          obtain ⟨rfl, rfl⟩ := Prod.mk.inj (Option.some.inj (found.symm.trans same))
          exact colon
        · rw [if_neg (fun contains => colon (List.contains_iff_mem.mp contains))] at read
          exact isProperty_of_repeatingToken free found colon read
  · rintro ⟨property, same⟩
    exact token_of_isProperty property same

/-! ## Refusing a body -/

theorem name_error {body : PropertyBody} {text : List Char} {failure : TokenizeError}
    (failed : body.name text = .error failure) : failure = .emptyPropertyName body.range := by
  unfold PropertyBody.name at failed
  split at failed
  · cases failed
    rfl
  · contradiction

theorem format_error {body : PropertyBody} {name : String} {text : Option (List Char)}
    {failure : TokenizeError} (failed : body.format name text = .error failure) :
    failure = .emptyFormat name body.range := by
  unfold PropertyBody.format at failed
  split at failed
  · contradiction
  · cases failed
    rfl
  · contradiction

/-- A body is refused as a whole, or for the text behind the separator of a
repeating property. -/
inductive Refusal (body : PropertyBody) : TokenizeError → Prop where
  | emptyName : Refusal body (.emptyPropertyName body.range)
  | emptyFormat (name : String) : Refusal body (.emptyFormat name body.range)
  | missingSeparator (name : String) : Refusal body (.missingRepeatingSeparator name body.range)
  | trailingText (name : String) {front trailing : List Char}
      (split : body.text = front ++ trailing) :
      Refusal body (.trailingRepeatingText name
        (TextRange.ofLength (body.offset + byteLength front) (byteLength trailing)))

theorem failure_of_scalarToken {body : PropertyBody} {failure : TokenizeError}
    (failed : body.scalarToken = .error failure) :
    failure = .emptyPropertyName body.range ∨ ∃ name, failure = .emptyFormat name body.range := by
  rcases bind_eq_error_iff.mp failed with unnamed | ⟨name, _, failed⟩
  · exact .inl (name_error unnamed)
  · rcases bind_eq_error_iff.mp failed with unformatted | ⟨format, _, done⟩
    · exact .inr ⟨name, format_error unformatted⟩
    · cases done

theorem scalarToken_ne_trailing (body : PropertyBody) (name : String) (range : TextRange) :
    body.scalarToken ≠ .error (.trailingRepeatingText name range) := by
  intro failed
  rcases failure_of_scalarToken failed with unnamed | ⟨_, unformatted⟩
  · cases unnamed
  · cases unformatted

theorem refusal_of_scalarToken {body : PropertyBody} {failure : TokenizeError}
    (failed : body.scalarToken = .error failure) : body.Refusal failure := by
  rcases failure_of_scalarToken failed with rfl | ⟨name, rfl⟩
  · exact .emptyName
  · exact .emptyFormat name

theorem refusal_of_repeatingToken {body : PropertyBody} {before after : List Char}
    {failure : TokenizeError} (split : body.text = before ++ repeatMarker ++ after)
    (failed : body.repeatingToken before after = .error failure) : body.Refusal failure := by
  rcases bind_eq_error_iff.mp failed with unnamed | ⟨name, _, failed⟩
  · rw [name_error unnamed]
    exact .emptyName
  · split at failed
    · cases failed
      exact .missingSeparator name
    · cases failed
    · rcases bind_eq_error_iff.mp failed with unformatted | ⟨format, _, done⟩
      · rw [format_error unformatted]
        exact .emptyFormat name
      · cases done
    · rename_i separator trailing _ _ _
      cases failed
      have marker : byteLength repeatMarker = 3 := rfl
      have front : byteLength (before ++ repeatMarker ++ [separator]) =
          byteLength before + 3 + separator.utf8Size := by
        simp only [byteLength_append, byteLength_cons, byteLength_nil, marker]
        omega
      have whole : body.text = before ++ repeatMarker ++ [separator] ++ trailing := by
        rw [split]
        simp
      have refusal := Refusal.trailingText name whole
      rw [front, ← Nat.add_assoc, ← Nat.add_assoc] at refusal
      exact refusal

theorem refusal_of_token {body : PropertyBody} {failure : TokenizeError}
    (failed : body.token = .error failure) : body.Refusal failure := by
  unfold PropertyBody.token at failed
  split at failed
  · rename_i before after found
    obtain ⟨split, _, _⟩ := splitAtMarker_eq_some_iff.mp found
    split at failed
    · exact refusal_of_scalarToken failed
    · exact refusal_of_repeatingToken split failed
  · exact refusal_of_scalarToken failed

end PropertyBody

end CompositeKey
