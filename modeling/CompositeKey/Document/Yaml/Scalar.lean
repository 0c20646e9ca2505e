import CompositeKey.Document.Yaml.Cursor
import CompositeKey.Text.Hexadecimal

/-!
# Plain and quoted scalars of a YAML text

A scalar may go over several lines.  Its line breaks are folded: one alone
becomes a space, and of several the first is dropped.
-/

set_option autoImplicit false

namespace CompositeKey

namespace Yaml

inductive Gap where
  | blanks (text : List Char)
  /-- Line breaks, with blanks around them that do not count. -/
  | breaks (first : Char) (more : List Char)
  /-- An escaped line break, and further ones behind it. -/
  | joined (more : List Char)

namespace Gap

def none : Gap := .blanks []

def isNone : Gap → Bool
  | .blanks text => text.isEmpty
  | _ => false

def isBroken : Gap → Bool
  | .blanks _ => false
  | _ => true

def push (c : Char) : Gap → Gap
  | .blanks text => if isBreak c then .breaks c [] else .blanks (text ++ [c])
  | .breaks first more => .breaks first (if isBreak c then more ++ [c] else more)
  | .joined more => .joined (if isBreak c then more ++ [c] else more)

def folded : Gap → List Char
  | .blanks text => text
  | .breaks first more =>
      if first = '\n' then if more.isEmpty then [' '] else more else first :: more
  | .joined more => more

end Gap

def close (before : List Char) (gap : Gap) : List Char := gap.folded.reverse ++ before

abbrev ReadScalar := Option (String × Cursor)

def indicators : List Char :=
  [',', '[', ']', '{', '}', '#', '&', '*', '!', '|', '>', '\'', '"', '%', '@', '\x60']

def endsPlain (flow : Bool) : List Char → Bool
  | [] => true
  | c :: rest =>
      (c == ':' && endsWord rest) || (flow && [',', '[', ']', '{', '}'].contains c)

/-- In flow context a colon inside a plain scalar must not meet an indicator. -/
def breaksPlain : List Char → Bool
  | ':' :: c :: _ => [',', '?', '[', ']', '{', '}'].contains c
  | _ => false

/-- Reads a plain scalar.  In block context its further lines begin at column
`least` or behind it.  The answer tells whether a line break was passed behind
the scalar. -/
def readPlain (flow : Bool) (least : Nat) :
    Place → Gap → List Char → List Char → Option (String × Bool × Cursor)
  | place, gap, before, [] => some (String.ofList before.reverse, gap.isBroken, ⟨place, []⟩)
  | place, gap, before, c :: rest =>
      let here : Cursor := ⟨place, c :: rest⟩
      if isBlank c || isBreak c then
        if c = '\t' ∧ gap.isBroken ∧ place.column < least then none
        else readPlain flow least (place.next c) (gap.push c) before rest
      else if here.isBoundary || (!gap.isNone && c == '#') ||
          (!flow && gap.isBroken && place.column < least) then
        some (String.ofList before.reverse, gap.isBroken, here)
      else if flow && breaksPlain here.rest then none
      else if endsPlain flow here.rest then
        some (String.ofList before.reverse, gap.isBroken, here)
      else readPlain flow least (place.next c) .none (c :: close before gap) rest

/-- Reads a scalar in single quotes behind its opening quote.  A quote in it is
written twice. -/
def readSingleQuoted : Place → Gap → List Char → List Char → ReadScalar
  | _, _, _, [] => none
  | place, gap, before, c :: rest =>
      if Cursor.isBoundary ⟨place, c :: rest⟩ then none
      else if isBlank c || isBreak c then
        readSingleQuoted (place.next c) (gap.push c) before rest
      else if c = '\'' then
        match rest with
        | '\'' :: more =>
            readSingleQuoted (place.behind ['\'', '\'']) .none ('\'' :: close before gap) more
        | _ => some (String.ofList (close before gap).reverse, ⟨place.next c, rest⟩)
      else readSingleQuoted (place.next c) .none (c :: close before gap) rest

def namedEscape? (c : Char) : Option Char :=
  match c with
  | '0' => some '\x00'
  | 'a' => some '\x07'
  | 'b' => some '\x08'
  | 't' => some '\t'
  | '\t' => some '\t'
  | 'n' => some '\n'
  | 'v' => some '\x0b'
  | 'f' => some '\x0c'
  | 'r' => some '\r'
  | 'e' => some '\x1b'
  | ' ' => some ' '
  | '"' => some '"'
  | '/' => some '/'
  | '\\' => some '\\'
  | 'N' => some '\u0085'
  | '_' => some '\u00a0'
  | 'L' => some '\u2028'
  | 'P' => some '\u2029'
  | _ => none

def numberedEscape? (digits : List Char) : Option Char := do
  let number ← hexNumber? digits
  if number.isValidChar then some (Char.ofNat number) else none

def readDoubleQuoted : Place → Gap → List Char → List Char → ReadScalar
  | _, _, _, [] => none
  | place, gap, before, c :: rest =>
      if Cursor.isBoundary ⟨place, c :: rest⟩ then none
      else if isBlank c || isBreak c then
        readDoubleQuoted (place.next c) (gap.push c) before rest
      else if c = '"' then
        some (String.ofList (close before gap).reverse, ⟨place.next c, rest⟩)
      else if c = '\\' then
        match rest with
        | 'x' :: first :: second :: more => do
            let value ← numberedEscape? [first, second]
            readDoubleQuoted (place.behind ['\\', 'x', first, second]) .none
              (value :: close before gap) more
        | 'u' :: first :: second :: third :: fourth :: more => do
            let digits := [first, second, third, fourth]
            let value ← numberedEscape? digits
            readDoubleQuoted (place.behind ('\\' :: 'u' :: digits)) .none
              (value :: close before gap) more
        | 'U' :: first :: second :: third :: fourth :: fifth :: sixth :: seventh :: eighth ::
            more => do
            let digits := [first, second, third, fourth, fifth, sixth, seventh, eighth]
            let value ← numberedEscape? digits
            readDoubleQuoted (place.behind ('\\' :: 'U' :: digits)) .none
              (value :: close before gap) more
        | escape :: more =>
            if isBreak escape then
              readDoubleQuoted (place.behind [c, escape]) (.joined []) (close before gap) more
            else do
              let value ← namedEscape? escape
              readDoubleQuoted (place.behind [c, escape]) .none (value :: close before gap) more
        | [] => none
      else readDoubleQuoted (place.next c) .none (c :: close before gap) rest

end Yaml

end CompositeKey
