import CompositeKey.Document.Json.Token

/-!
# Writing JSON

`Json.compact` writes a value on one line without blanks.  `Json.pretty` puts
every element on a line of its own, two blanks further in for each level, and
leaves empty arrays and objects on one line.
-/

set_option autoImplicit false

namespace CompositeKey

namespace Json

mutual

def tokens : Json → List JsonToken
  | .null => [.null]
  | .bool value => [.bool value]
  | .integer value => [.integer value]
  | .decimal literal => [.decimal literal]
  | .string text => [.string text]
  | .array items => .openArray :: itemTokens items ++ [.closeArray]
  | .object fields => .openObject :: fieldTokens fields ++ [.closeObject]

def itemTokens : List Json → List JsonToken
  | [] => []
  | [item] => tokens item
  | item :: rest => tokens item ++ .comma :: itemTokens rest

def fieldTokens : List (JsonText × Json) → List JsonToken
  | [] => []
  | [(key, value)] => .string key :: .colon :: tokens value
  | (key, value) :: rest => .string key :: .colon :: tokens value ++ .comma :: fieldTokens rest

end

def compact (value : Json) : String := String.ofList (value.tokens.flatMap JsonToken.text)

def lineBreak (level : Nat) : List Char := '\n' :: List.replicate (2 * level) ' '

mutual

def prettyChars (level : Nat) : Json → List Char
  | .null => JsonToken.text .null
  | .bool value => JsonToken.text (.bool value)
  | .integer value => JsonToken.text (.integer value)
  | .decimal literal => JsonToken.text (.decimal literal)
  | .string text => JsonToken.text (.string text)
  | .array [] => ['[', ']']
  | .array (item :: rest) =>
      '[' :: lineBreak (level + 1) ++ prettyChars (level + 1) item ++
        prettyItems (level + 1) rest ++ lineBreak level ++ [']']
  | .object [] => ['{', '}']
  | .object ((key, value) :: rest) =>
      '{' :: lineBreak (level + 1) ++ quoted key ++ [':', ' '] ++ prettyChars (level + 1) value ++
        prettyFields (level + 1) rest ++ lineBreak level ++ ['}']

def prettyItems (level : Nat) : List Json → List Char
  | [] => []
  | item :: rest => ',' :: lineBreak level ++ prettyChars level item ++ prettyItems level rest

def prettyFields (level : Nat) : List (JsonText × Json) → List Char
  | [] => []
  | (key, value) :: rest =>
      ',' :: lineBreak level ++ quoted key ++ [':', ' '] ++ prettyChars level value ++
        prettyFields level rest

end

def pretty (value : Json) : String := String.ofList (prettyChars 0 value)

end Json

end CompositeKey
