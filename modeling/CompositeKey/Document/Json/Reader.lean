import CompositeKey.Document.Json.Token

/-!
# Reading a JSON value from its tokens

A reader is in one of a few states and takes one token at a time.  The arrays
and objects that are still open stand in its state, innermost first, each with
what it holds so far, the last read first.
-/

set_option autoImplicit false

namespace CompositeKey

inductive JsonFrame where
  | array (before : List Json)
  | object (before : List (JsonText × Json)) (key : JsonText)

inductive JsonState where
  | expectValue (frames : List JsonFrame)
  | firstElement (frames : List JsonFrame)
  | afterElement (before : List Json) (frames : List JsonFrame)
  | firstKey (frames : List JsonFrame)
  | expectKey (before : List (JsonText × Json)) (frames : List JsonFrame)
  | expectColon (before : List (JsonText × Json)) (key : JsonText) (frames : List JsonFrame)
  | afterField (before : List (JsonText × Json)) (frames : List JsonFrame)
  | finished (value : Json)

namespace JsonState

def ofValue (value : Json) : List JsonFrame → JsonState
  | [] => .finished value
  | .array before :: frames => .afterElement (value :: before) frames
  | .object before key :: frames => .afterField ((key, value) :: before) frames

def beginValue (frames : List JsonFrame) : JsonToken → Option JsonState
  | .null => some (ofValue .null frames)
  | .bool value => some (ofValue (.bool value) frames)
  | .integer value => some (ofValue (.integer value) frames)
  | .decimal literal => some (ofValue (.decimal literal) frames)
  | .string text => some (ofValue (.string text) frames)
  | .openArray => some (.firstElement frames)
  | .openObject => some (.firstKey frames)
  | _ => none

def step : JsonState → JsonToken → Option JsonState
  | .expectValue frames, token => beginValue frames token
  | .firstElement frames, .closeArray => some (ofValue (.array []) frames)
  | .firstElement frames, token => beginValue (.array [] :: frames) token
  | .afterElement before frames, .comma => some (.expectValue (.array before :: frames))
  | .afterElement before frames, .closeArray => some (ofValue (.array before.reverse) frames)
  | .firstKey frames, .closeObject => some (ofValue (.object []) frames)
  | .firstKey frames, .string name => some (.expectColon [] name frames)
  | .expectKey before frames, .string name => some (.expectColon before name frames)
  | .expectColon before name frames, .colon => some (.expectValue (.object before name :: frames))
  | .afterField before frames, .comma => some (.expectKey before frames)
  | .afterField before frames, .closeObject => some (ofValue (.object before.reverse) frames)
  | _, _ => none

end JsonState

namespace Json

def ofTokens? (tokens : List JsonToken) : Option Json :=
  match tokens.foldlM JsonState.step (.expectValue []) with
  | some (.finished value) => some value
  | _ => none

def parse? (text : String) : Option Json := do
  ofTokens? (← JsonToken.ofText text.toList)

end Json

end CompositeKey
