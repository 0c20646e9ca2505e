import CompositeKey.Document.Json
import CompositeKey.Text.Hexadecimal

/-!
# JSON tokens

A JSON text is a sequence of tokens with blanks between them.  `JsonToken.text`
writes a token and `JsonToken.ofText` reads the tokens of a text.
-/

set_option autoImplicit false

namespace CompositeKey

inductive JsonToken where
  | openArray
  | closeArray
  | openObject
  | closeObject
  | comma
  | colon
  | null
  | bool (value : Bool)
  | integer (value : Int)
  | decimal (literal : String)
  | string (text : JsonText)
deriving DecidableEq

/-- Only the quote, the backslash and the characters below the space are
escaped. -/
def escapedChar (c : Char) : List Char :=
  if c = '"' then ['\\', '"']
  else if c = '\\' then ['\\', '\\']
  else if c = '\x08' then ['\\', 'b']
  else if c = '\x0c' then ['\\', 'f']
  else if c = '\n' then ['\\', 'n']
  else if c = '\r' then ['\\', 'r']
  else if c = '\t' then ['\\', 't']
  else if c.toNat < 0x20 then
    ['\\', 'u', '0', '0', hexDigit (c.toNat / 16), hexDigit (c.toNat % 16)]
  else [c]

def quoted : JsonText → List Char
  | none => ['"', '\\', 'u', 'd', '8', '0', '0', '"']
  | some text => '"' :: text.toList.flatMap escapedChar ++ ['"']

def shortEscape? (c : Char) : Option Char :=
  if c = '"' ∨ c = '\\' ∨ c = '/' then some c
  else if c = 'b' then some '\x08'
  else if c = 'f' then some '\x0c'
  else if c = 'n' then some '\n'
  else if c = 'r' then some '\r'
  else if c = 't' then some '\t'
  else none

/-- Reads a string behind its opening quote, as the code points and the halves
of surrogate pairs that it lists, and the text behind its closing quote. -/
def readUnits : List Char → Option (List Nat × List Char)
  | [] => none
  | c :: rest =>
      if c = '"' then some ([], rest)
      else if c = '\\' then
        match rest with
        | 'u' :: first :: second :: third :: fourth :: rest => do
            let high := (← hexValue? first) * 16 + (← hexValue? second)
            let low := (← hexValue? third) * 16 + (← hexValue? fourth)
            let (units, after) ← readUnits rest
            return ((high * 256 + low) :: units, after)
        | escape :: rest => do
            let value ← shortEscape? escape
            let (units, after) ← readUnits rest
            return (value.toNat :: units, after)
        | [] => none
      else if c.toNat < 0x20 then none
      else do
        let (units, after) ← readUnits rest
        return (c.toNat :: units, after)

/-- Joins the halves of surrogate pairs; there is no text when one stands alone. -/
def textOfUnits : List Nat → Option (List Char)
  | [] => some []
  | high :: low :: rest =>
      if 0xD800 ≤ high ∧ high < 0xDC00 then
        if 0xDC00 ≤ low ∧ low < 0xE000 then
          (textOfUnits rest).map
            (Char.ofNat (0x10000 + (high - 0xD800) * 0x400 + (low - 0xDC00)) :: ·)
        else none
      else if 0xDC00 ≤ high ∧ high < 0xE000 then none
      else (textOfUnits (low :: rest)).map (Char.ofNat high :: ·)
  | [unit] => if 0xD800 ≤ unit ∧ unit < 0xE000 then none else some [Char.ofNat unit]

def isNumberChar (c : Char) : Bool :=
  c.isDigit || c == '-' || c == '+' || c == '.' || c == 'e' || c == 'E'

/-- Digits of an integer part: no zero in front of another digit. -/
def isIntegerPart : List Char → Bool
  | [] => false
  | ['0'] => true
  | c :: rest => c != '0' && (c :: rest).all Char.isDigit

def isDigits (text : List Char) : Bool := !text.isEmpty && text.all Char.isDigit

def isExponentPart : List Char → Bool
  | [] => true
  | c :: rest =>
      (c == 'e' || c == 'E') &&
        match rest with
        | '+' :: digits => isDigits digits
        | '-' :: digits => isDigits digits
        | digits => isDigits digits

def isFractionPart : List Char → Bool
  | '.' :: rest =>
      isDigits (rest.takeWhile Char.isDigit) && isExponentPart (rest.dropWhile Char.isDigit)
  | rest => !rest.isEmpty && isExponentPart rest

/-- The number without its sign; `negative` tells whether there was one. -/
def readUnsigned (negative : Bool) (literal text : List Char) : Option JsonToken :=
  let digits := text.takeWhile Char.isDigit
  let after := text.dropWhile Char.isDigit
  let value := Nat.ofDigitChars 10 digits 0
  if !isIntegerPart digits then none
  else if after.isEmpty && !(negative && value == 0) then
    some (.integer (if negative then -(value : Int) else value))
  else if after.isEmpty || isFractionPart after then some (.decimal (String.ofList literal))
  else none

def readNumber : List Char → Option JsonToken
  | '-' :: text => readUnsigned true ('-' :: text) text
  | text => readUnsigned false text text

namespace JsonToken

def text : JsonToken → List Char
  | .openArray => ['[']
  | .closeArray => [']']
  | .openObject => ['{']
  | .closeObject => ['}']
  | .comma => [',']
  | .colon => [':']
  | .null => ['n', 'u', 'l', 'l']
  | .bool true => ['t', 'r', 'u', 'e']
  | .bool false => ['f', 'a', 'l', 's', 'e']
  | .integer (.ofNat value) => Nat.toDigits 10 value
  | .integer (.negSucc value) => '-' :: Nat.toDigits 10 (value + 1)
  | .decimal literal => literal.toList
  | .string value => quoted value

def isBlank (c : Char) : Bool := c == ' ' || c == '\n' || c == '\t' || c == '\r'

def punctuation? (c : Char) : Option JsonToken :=
  if c = '[' then some .openArray
  else if c = ']' then some .closeArray
  else if c = '{' then some .openObject
  else if c = '}' then some .closeObject
  else if c = ',' then some .comma
  else if c = ':' then some .colon
  else none

def readPlain (c : Char) (rest : List Char) : Option (JsonToken × List Char) :=
  match c, rest with
  | 'n', 'u' :: 'l' :: 'l' :: after => some (.null, after)
  | 't', 'r' :: 'u' :: 'e' :: after => some (.bool true, after)
  | 'f', 'a' :: 'l' :: 's' :: 'e' :: after => some (.bool false, after)
  | c, rest =>
      (readNumber (c :: rest.takeWhile isNumberChar)).map fun number =>
        (number, rest.dropWhile isNumberChar)

def read (c : Char) (rest : List Char) : Option (JsonToken × List Char) :=
  match punctuation? c with
  | some token => some (token, rest)
  | none =>
      if c = '"' then
        (readUnits rest).map fun found =>
          (.string ((textOfUnits found.1).map String.ofList), found.2)
      else readPlain c rest

theorem length_le_of_readUnits (text : List Char) {units : List Nat} {after : List Char}
    (found : readUnits text = some (units, after)) : after.length ≤ text.length := by
  fun_induction readUnits text generalizing units after with
  | case1 => contradiction
  | case2 rest =>
      simp only [Option.some.injEq, Prod.mk.injEq] at found
      rw [← found.2]
      exact Nat.le_succ _
  | case3 first second third fourth rest _ ih =>
      simp only [Option.bind_eq_bind, Option.pure_def, Option.bind_eq_some_iff, Option.some.injEq,
        Prod.mk.injEq] at found
      obtain ⟨_, _, _, _, _, _, _, _, read, inner, _, rfl⟩ := found
      have := ih inner
      simp only [List.length_cons]
      omega
  | case4 escape rest _ _ ih =>
      simp only [Option.bind_eq_bind, Option.pure_def, Option.bind_eq_some_iff, Option.some.injEq,
        Prod.mk.injEq] at found
      obtain ⟨_, _, read, inner, _, rfl⟩ := found
      have := ih inner
      simp only [List.length_cons]
      omega
  | case5 => contradiction
  | case6 => contradiction
  | case7 c rest _ _ _ ih =>
      simp only [Option.bind_eq_bind, Option.pure_def, Option.bind_eq_some_iff, Option.some.injEq,
        Prod.mk.injEq] at found
      obtain ⟨read, inner, _, rfl⟩ := found
      have := ih inner
      simp only [List.length_cons]
      omega

theorem length_le_of_readPlain {c : Char} {rest after : List Char} {token : JsonToken}
    (found : readPlain c rest = some (token, after)) : after.length ≤ rest.length := by
  unfold readPlain at found
  split at found
  case h_4 =>
    obtain ⟨number, _, equal⟩ := Option.map_eq_some_iff.mp found
    simp only [Prod.mk.injEq] at equal
    rw [← equal.2]
    exact (List.dropWhile_sublist _).length_le
  all_goals
    simp only [Option.some.injEq, Prod.mk.injEq] at found
    have lengths := congrArg List.length found.2
    simp only [List.length_cons]
    omega

theorem length_le_of_read {c : Char} {rest after : List Char} {token : JsonToken}
    (found : read c rest = some (token, after)) : after.length ≤ rest.length := by
  unfold read at found
  split at found
  · simp only [Option.some.injEq, Prod.mk.injEq] at found
    exact Nat.le_of_eq (congrArg List.length found.2.symm)
  · split at found
    · obtain ⟨units, readInner, equal⟩ := Option.map_eq_some_iff.mp found
      simp only [Prod.mk.injEq] at equal
      rw [← equal.2]
      exact length_le_of_readUnits rest readInner
    · exact length_le_of_readPlain found

def ofText : List Char → Option (List JsonToken)
  | [] => some []
  | c :: rest =>
      if isBlank c then ofText rest
      else
        match found : read c rest with
        | none => none
        | some (token, after) =>
            have _shorter := length_le_of_read found
            (ofText after).map (token :: ·)
termination_by text => text.length

end JsonToken

end CompositeKey
