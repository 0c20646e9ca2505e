import CompositeKey.Document.Yaml
import CompositeKey.Document.Yaml.Cursor

/-!
# Block scalars of a YAML text

A block scalar is a run of lines that all begin at one column.  Its header may
give that column and say what becomes of the line breaks at the end; without a
column it is the first line with text that decides.
-/

set_option autoImplicit false

namespace CompositeKey

namespace Yaml

inductive Chomping where
  | clip
  | strip
  | keep
deriving DecidableEq

structure BlockHeader where
  chomping : Chomping
  /-- How far the lines stand behind the column of the parent. -/
  indent : Option Nat
deriving DecidableEq

namespace BlockHeader

def chomping? (c : Char) : Option Chomping :=
  if c = '-' then some .strip else if c = '+' then some .keep else none

def indent? (c : Char) : Option Nat :=
  if '1' ≤ c ∧ c ≤ '9' then some (c.toNat - '0'.toNat) else none

def read (cursor : Cursor) : BlockHeader × Cursor :=
  match cursor.rest with
  | [] => (⟨.clip, none⟩, cursor)
  | first :: rest =>
      let second := rest.head?
      match chomping? first, indent? first with
      | some chomping, _ =>
          match second.bind indent? with
          | some indent => (⟨chomping, some indent⟩, cursor.drop 2)
          | none => (⟨chomping, none⟩, cursor.drop 1)
      | none, some indent =>
          match second.bind chomping? with
          | some chomping => (⟨chomping, some indent⟩, cursor.drop 2)
          | none => (⟨.clip, some indent⟩, cursor.drop 1)
      | none, none => (⟨.clip, none⟩, cursor)

end BlockHeader

/-- Passes over the empty lines in front of the first line with text.  The
answer has the last column that was reached and the line breaks, the last one
first. -/
def readEmptyLines :
    Nat → List Char → Place → List Char → Option (Nat × List Char × Cursor)
  | reached, breaks, place, [] => some (max reached place.column, breaks, ⟨place, []⟩)
  | reached, breaks, place, c :: rest =>
      if c = ' ' then readEmptyLines reached breaks (place.next c) rest
      else if c = '\t' then none
      else if isBreak c then
        readEmptyLines (max reached place.column) (c :: breaks) (place.next c) rest
      else some (max reached place.column, breaks, ⟨place, c :: rest⟩)

structure BlockLines where
  inLine : Bool
  /-- The text up to the last line, its last character first. -/
  before : List Char
  leading : Option Char
  /-- The breaks of the empty lines behind it, the last one first. -/
  trailing : List Char
  indented : Bool

namespace BlockLines

def ofEmpty (breaks : List Char) : BlockLines := ⟨false, [], none, breaks, false⟩

/-- Begins a line.  A folded scalar joins it to the line before when neither
begins with a blank. -/
def beginLine (style : ScalarStyle) (c : Char) (lines : BlockLines) : BlockLines :=
  let joint :=
    if style = .folded ∧ lines.leading = some '\n' ∧ !lines.indented ∧ !isBlank c then
      if lines.trailing.isEmpty then [' '] else lines.trailing
    else lines.trailing ++ lines.leading.toList
  ⟨true, c :: (joint ++ lines.before), none, [], isBlank c⟩

def push (c : Char) (lines : BlockLines) : BlockLines :=
  { lines with before := c :: lines.before }

def endLine (c : Char) (lines : BlockLines) : BlockLines :=
  { lines with inLine := false, leading := some c }

def emptyLine (c : Char) (lines : BlockLines) : BlockLines :=
  { lines with trailing := c :: lines.trailing }

def text (chomping : Chomping) (lines : BlockLines) : String :=
  let reversed :=
    match chomping with
    | .strip => lines.before
    | .clip => lines.leading.toList ++ lines.before
    | .keep => lines.trailing ++ lines.leading.toList ++ lines.before
  String.ofList reversed.reverse

def read (style : ScalarStyle) (indent : Nat) :
    BlockLines → Place → List Char → Option (BlockLines × Cursor)
  | lines, place, [] => some (lines, ⟨place, []⟩)
  | lines, place, c :: rest =>
      if lines.inLine then
        if isBreak c then (lines.endLine c).read style indent (place.next c) rest
        else (lines.push c).read style indent (place.next c) rest
      else if c = ' ' ∧ place.column < indent then lines.read style indent (place.next c) rest
      else if c = '\t' ∧ place.column < indent then none
      else if isBreak c then (lines.emptyLine c).read style indent (place.next c) rest
      else if place.column = indent then
        (lines.beginLine style c).read style indent (place.next c) rest
      else some (lines, ⟨place, c :: rest⟩)

end BlockLines

/-- Reads a block scalar from behind its indicator.  The columns behind that of
its parent begin at `least`. -/
def readBlockScalar (style : ScalarStyle) (least : Nat) (cursor : Cursor) :
    Option (String × Cursor) := do
  let (header, behindHeader) := BlockHeader.read cursor
  let start ← behindHeader.endLine?
  match header.indent with
  | some indent =>
      let (lines, after) ←
        (BlockLines.ofEmpty []).read style (least - 1 + indent) start.place start.rest
      return (lines.text header.chomping, after)
  | none =>
      let (reached, breaks, first) ← readEmptyLines 0 [] start.place start.rest
      let (lines, after) ←
        (BlockLines.ofEmpty breaks).read style (max reached (max least 1)) first.place first.rest
      return (lines.text header.chomping, after)

end Yaml

end CompositeKey
