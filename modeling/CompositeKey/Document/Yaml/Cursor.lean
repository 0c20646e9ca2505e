/-!
# Places in a YAML text

Indentation carries meaning, so a reader has to know its line and its column.
Line breaks are made alike first; then every step over a character is
`Place.next`.
-/

set_option autoImplicit false

namespace CompositeKey

namespace Yaml

def isBlank (c : Char) : Bool := c == ' ' || c == '\t'

def isBreak (c : Char) : Bool := c == '\n' || c == '\u2028' || c == '\u2029'

def isPrintable (c : Char) : Bool :=
  c == '\t' || c == '\n' || c == '\r' || (' ' ≤ c && c ≤ '~') || c == '\u0085' ||
    ('\u00a0' ≤ c && c ≤ '\ufffd') || 0x10000 ≤ c.toNat

def isNameChar (c : Char) : Bool := c.isAlphanum || c == '-' || c == '_'

/-- Writes every line break as a line feed; the line separator and the paragraph
separator stay. -/
def joinBreaks : List Char → List Char
  | [] => []
  | '\r' :: '\n' :: rest => '\n' :: joinBreaks rest
  | c :: rest => (if c = '\r' ∨ c = '\u0085' then '\n' else c) :: joinBreaks rest

def endsLine : List Char → Bool
  | [] => true
  | c :: _ => isBreak c

def endsWord : List Char → Bool
  | [] => true
  | c :: _ => isBlank c || isBreak c

structure Place where
  index : Nat
  line : Nat
  column : Nat

namespace Place

def start : Place := ⟨0, 0, 0⟩

def next (place : Place) (c : Char) : Place :=
  if isBreak c then ⟨place.index + c.utf8Size, place.line + 1, 0⟩
  else ⟨place.index + c.utf8Size, place.line, place.column + 1⟩

def behind (place : Place) (text : List Char) : Place := text.foldl next place

end Place

structure Cursor where
  place : Place
  rest : List Char

namespace Cursor

def ofText (text : List Char) : Cursor := ⟨.start, text⟩

def drop (count : Nat) (cursor : Cursor) : Cursor :=
  ⟨cursor.place.behind (cursor.rest.take count), cursor.rest.drop count⟩

def span (kind : Char → Bool) (cursor : Cursor) : List Char × Cursor :=
  let taken := cursor.rest.takeWhile kind
  (taken, cursor.drop taken.length)

def skip (kind : Char → Bool) (cursor : Cursor) : Cursor := (cursor.span kind).2

def startsWith (cursor : Cursor) (chars : List Char) : Bool :=
  match cursor.rest with
  | [] => false
  | c :: _ => chars.contains c

def isMarker (cursor : Cursor) (c : Char) : Bool :=
  cursor.place.column == 0 &&
    match cursor.rest with
    | first :: second :: third :: rest => [first, second, third] == [c, c, c] && endsWord rest
    | _ => false

def isBoundary (cursor : Cursor) : Bool := cursor.isMarker '-' || cursor.isMarker '.'

def endLine? (cursor : Cursor) : Option Cursor :=
  let start := cursor.skip isBlank
  let stop := if start.startsWith ['#'] then start.skip fun c => !isBreak c else start
  if endsLine stop.rest then some (stop.drop 1) else none

end Cursor

/-- Passes over blanks, line breaks, comments and a byte order mark that begins
a line.  In block context a tab is a blank only where no key can begin; keys can
begin behind every line break.  The answer tells whether they can at the end. -/
def skipBlanks (flow : Bool) : (keys comment : Bool) → Place → List Char → Bool × Cursor
  | keys, _, place, [] => (keys, ⟨place, []⟩)
  | keys, comment, place, c :: rest =>
      if isBreak c then skipBlanks flow (keys || !flow) false (place.next c) rest
      else if comment || c == ' ' || (c == '\t' && (flow || !keys)) ||
          (c == '\ufeff' && place.column == 0) then
        skipBlanks flow keys comment (place.next c) rest
      else if c == '#' then skipBlanks flow keys true (place.next c) rest
      else (keys, ⟨place, c :: rest⟩)

end Yaml

end CompositeKey
