import CompositeKey.Document.Yaml.BlockScalar
import CompositeKey.Document.Yaml.Scalar
import CompositeKey.Document.Yaml.Tag

/-!
# The layout of a YAML text

Reading a text from left to right gives its tokens.  The columns of the block
collections that are open stand on a stack; a line that begins in front of some
of them closes those.  A node may turn out to be a mapping key only when its
colon is read, so the place where a key may have begun is kept, with the number
of tokens in front of it, and the token for the key is put in there afterwards.
-/

set_option autoImplicit false

namespace CompositeKey

namespace Yaml

structure KeyStart where
  place : Place
  count : Nat
  /-- Whether nothing but a key can stand here. -/
  required : Bool

/-- Whether a key from here to a colon is short enough: it stays on its line and
has no more than 1024 bytes. -/
def KeyStart.reaches (key : KeyStart) (colon : Place) : Bool :=
  key.place.line == colon.line && colon.index ≤ key.place.index + 1024

structure Layout where
  cursor : Cursor
  /-- The columns of the open block collections, innermost first. -/
  columns : List Nat
  keysAllowed : Bool
  /-- The key that may have begun in the innermost flow collection, or in block
  context. -/
  key : Option KeyStart
  /-- The keys that may have begun around each open flow collection, innermost
  first. -/
  outer : List (Option KeyStart)
  count : Nat
  tokens : List YamlToken

namespace Layout

def ofText (text : List Char) : Layout := ⟨.ofText text, [], true, none, [], 0, []⟩

def inFlow (layout : Layout) : Bool := !layout.outer.isEmpty

def least (layout : Layout) : Nat :=
  match layout.columns with
  | [] => 0
  | column :: _ => column + 1

def push (token : YamlToken) (layout : Layout) : Layout :=
  { layout with count := layout.count + 1, tokens := token :: layout.tokens }

def pushTo (token : YamlToken) (cursor : Cursor) (layout : Layout) : Layout :=
  { layout.push token with cursor := cursor }

def pushOver (size : Nat) (token : YamlToken) (layout : Layout) : Layout :=
  layout.pushTo token (layout.cursor.drop size)

def insert (count : Nat) (token : YamlToken) (layout : Layout) : Layout :=
  let behind := layout.count - count
  { layout with
    count := layout.count + 1
    tokens := layout.tokens.take behind ++ token :: layout.tokens.drop behind }

def allowKeys (allowed : Bool) (layout : Layout) : Layout :=
  { layout with keysAllowed := allowed }

def beginBlock (token : YamlToken) (column count : Nat) (layout : Layout) : Layout :=
  if !layout.inFlow && layout.least ≤ column then
    { layout.insert count token with columns := column :: layout.columns }
  else layout

def closeBlocks (kind : Nat → Bool) (layout : Layout) : Layout :=
  if layout.inFlow then layout
  else
    let closed := (layout.columns.takeWhile kind).length
    { layout with
      columns := layout.columns.drop closed
      count := layout.count + closed
      tokens := List.replicate closed .close ++ layout.tokens }

def dropKey (layout : Layout) : Option Layout :=
  if layout.key.any KeyStart.required then none else some { layout with key := none }

def keepKey (layout : Layout) : Option Layout :=
  if layout.keysAllowed then
    let place := layout.cursor.place
    let required := !layout.inFlow && layout.columns.head? == some place.column
    layout.dropKey.map fun layout =>
      { layout with key := some ⟨place, layout.count, required⟩ }
  else some layout

/-- A key or a block collection begins here, which is always possible in flow
context. -/
def beginning (layout : Layout) : Option Layout :=
  if layout.inFlow || layout.keysAllowed then some layout else none

/-! ## Steps -/

def closeAll (layout : Layout) : Option Layout := (layout.closeBlocks fun _ => true).dropKey

def takeMarker (token : YamlToken) (layout : Layout) : Option Layout :=
  layout.closeAll.map fun layout => (layout.pushOver 3 token).allowKeys false

def takeDirective (layout : Layout) : Option Layout := do
  let layout ← layout.closeAll
  let (token, after) ← readDirective (layout.cursor.drop 1)
  return (layout.pushTo token after).allowKeys false

def takeOpen (token : YamlToken) (layout : Layout) : Option Layout :=
  layout.keepKey.map fun layout =>
    { (layout.pushOver 1 token).allowKeys true with
      key := none
      outer := layout.key :: layout.outer }

def takeClose (token : YamlToken) (layout : Layout) : Option Layout :=
  layout.dropKey.map fun layout =>
    { (layout.pushOver 1 token).allowKeys false with
      key := layout.outer.head?.getD none
      outer := layout.outer.tail }

def takeComma (layout : Layout) : Option Layout :=
  layout.dropKey.map fun layout => (layout.pushOver 1 .comma).allowKeys true

def takeDash (layout : Layout) : Option Layout := do
  let layout ← (← layout.beginning).dropKey
  return ((layout.beginBlock .openItems layout.cursor.place.column layout.count).pushOver 1
    .dash).allowKeys true

def takeQuestion (layout : Layout) : Option Layout := do
  let layout ← (← layout.beginning).dropKey
  return ((layout.beginBlock .openFields layout.cursor.place.column layout.count).pushOver 1
    .key).allowKeys !layout.inFlow

def takeLoneColon (layout : Layout) : Option Layout :=
  layout.beginning.map fun layout =>
    ((layout.beginBlock .openFields layout.cursor.place.column layout.count).pushOver 1
      .colon).allowKeys !layout.inFlow

def takeColon (layout : Layout) : Option Layout :=
  match layout.key with
  | none => layout.takeLoneColon
  | some key =>
      if key.reaches layout.cursor.place then
        some { (((layout.insert key.count .key).beginBlock .openFields key.place.column
          key.count).pushOver 1 .colon).allowKeys false with key := none }
      else layout.dropKey.bind takeLoneColon

def takeName (token : String → YamlToken) (layout : Layout) : Option Layout :=
  let (name, after) := (layout.cursor.drop 1).span isNameChar
  if !name.isEmpty &&
      (endsWord after.rest || after.startsWith ['?', ':', ',', ']', '}', '%', '@', '\x60']) then
    layout.keepKey.map fun layout =>
      (layout.pushTo (token (String.ofList name)) after).allowKeys false
  else none

def takeTag (layout : Layout) : Option Layout := do
  let (token, after) ← readTag layout.inFlow (layout.cursor.drop 1)
  return ((← layout.keepKey).pushTo token after).allowKeys false

def takeQuoted (read : Place → Gap → List Char → List Char → ReadScalar) (layout : Layout) :
    Option Layout := do
  let start := layout.cursor.drop 1
  let (text, after) ← read start.place .none [] start.rest
  return ((← layout.keepKey).pushTo (.scalar .quoted text) after).allowKeys false

def takePlain (layout : Layout) : Option Layout := do
  let cursor := layout.cursor
  let (text, broken, after) ←
    readPlain layout.inFlow layout.least cursor.place .none [] cursor.rest
  return ((← layout.keepKey).pushTo (.scalar .plain text) after).allowKeys broken

def takeBlockScalar (style : ScalarStyle) (layout : Layout) : Option Layout := do
  let (text, after) ← readBlockScalar style layout.least (layout.cursor.drop 1)
  return ((← layout.dropKey).pushTo (.scalar style text) after).allowKeys true

def take (c : Char) (layout : Layout) : Option Layout :=
  let alone := endsWord (layout.cursor.rest.drop 1)
  if layout.cursor.place.column = 0 ∧ c = '%' then layout.takeDirective
  else if layout.cursor.isMarker '-' then layout.takeMarker .documentStart
  else if layout.cursor.isMarker '.' then layout.takeMarker .documentEnd
  else if c = '[' then layout.takeOpen .openSequence
  else if c = '{' then layout.takeOpen .openMapping
  else if c = ']' then layout.takeClose .closeSequence
  else if c = '}' then layout.takeClose .closeMapping
  else if c = ',' then layout.takeComma
  else if c = '-' ∧ alone then layout.takeDash
  else if c = '?' ∧ (layout.inFlow || alone) then layout.takeQuestion
  else if c = ':' ∧ (layout.inFlow || alone) then layout.takeColon
  else if c = '*' then layout.takeName .alias
  else if c = '&' then layout.takeName .anchor
  else if c = '!' then layout.takeTag
  else if c = '|' ∧ !layout.inFlow then layout.takeBlockScalar .literal
  else if c = '>' ∧ !layout.inFlow then layout.takeBlockScalar .folded
  else if c = '\'' then layout.takeQuoted readSingleQuoted
  else if c = '"' then layout.takeQuoted readDoubleQuoted
  else if isBlank c || indicators.contains c then none
  else layout.takePlain

def skip (layout : Layout) : Layout :=
  let (keysAllowed, cursor) :=
    skipBlanks layout.inFlow layout.keysAllowed false layout.cursor.place layout.cursor.rest
  { layout with keysAllowed := keysAllowed, cursor := cursor }

def tokens? : Nat → Layout → Option (List YamlToken)
  | 0, _ => none
  | limit + 1, layout =>
      let next := layout.skip
      match next.cursor.rest with
      | [] => next.closeAll.map fun last => (last.push .stop).tokens.reverse
      | c :: _ => ((next.closeBlocks (next.cursor.place.column < ·)).take c).bind (tokens? limit)

end Layout

end Yaml

namespace YamlToken

/-- The tokens of a text.  No step takes less than one character. -/
def ofText? (text : List Char) : Option (List YamlToken) :=
  (Yaml.Layout.ofText text).tokens? (text.length + 1)

end YamlToken

end CompositeKey
