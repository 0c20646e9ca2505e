import CompositeKey.Document.Yaml.Cursor
import CompositeKey.Document.Yaml.Token
import CompositeKey.Text.Hexadecimal

/-!
# Tags and directives of a YAML text

A tag is an identifier in ASCII; any other character in it is written by its
UTF-8 octets, each as a percent sign and two hexadecimal digits.
-/

set_option autoImplicit false

namespace CompositeKey

namespace Yaml

/-- Whether a character may stand in a tag.  Commas and brackets may do so where
they cannot be taken for something else. -/
def isTagChar (brackets : Bool) (c : Char) : Bool :=
  isNameChar c ||
    [';', '/', '?', ':', '@', '&', '=', '+', '$', '.', '!', '~', '*', '\'', '(', ')'].contains c ||
    (brackets && [',', '[', ']'].contains c)

def followingOctets? (octet : Nat) : Option Nat :=
  if octet < 0x80 then some 0
  else if octet < 0xc0 then none
  else if octet < 0xe0 then some 1
  else if octet < 0xf0 then some 2
  else if octet < 0xf8 then some 3
  else none

def isFollowingOctet (octet : Nat) : Bool := 0x80 ≤ octet && octet < 0xc0

/-- Reads the octets of an identifier, of which `missing` have to be escaped to
complete a character. -/
def readOctets (brackets : Bool) :
    (missing : Nat) → List Nat → Place → List Char → Option (List Nat × Cursor)
  | 0, before, place, [] => some (before.reverse, ⟨place, []⟩)
  | _ + 1, _, _, [] => none
  | missing, before, place, '%' :: high :: low :: rest => do
      let octet ← hexNumber? [high, low]
      let following ←
        match missing with
        | 0 => followingOctets? octet
        | still + 1 => if isFollowingOctet octet then some still else none
      readOctets brackets following (octet :: before) (place.behind ['%', high, low]) rest
  | 0, before, place, c :: rest =>
      if isTagChar brackets c then
        readOctets brackets 0 (c.toNat :: before) (place.next c) rest
      else if c = '%' then none
      else some (before.reverse, ⟨place, c :: rest⟩)
  | _ + 1, _, _, _ :: _ => none

/-- The text of some octets up to a zero octet, when it is one. -/
def textOfOctets? (octets : List Nat) : Option String :=
  String.fromUTF8? ⟨((octets.takeWhile (· != 0)).map UInt8.ofNat).toArray⟩

def readIdentifier (brackets : Bool) (cursor : Cursor) : Option (Option String × Cursor) := do
  let (octets, after) ← readOctets brackets 0 [] cursor.place cursor.rest
  if octets.isEmpty then none else return (textOfOctets? octets, after)

def handleOf (name : List Char) : String := String.ofList ('!' :: name ++ ['!'])

def readTagBody (cursor : Cursor) : Option (YamlToken × Cursor) := do
  let (name, behindName) := cursor.span isNameChar
  if cursor.startsWith ['<'] then
    let (identifier, after) ← readIdentifier true (cursor.drop 1)
    if after.startsWith ['>'] then return (.tag "" identifier, after.drop 1) else none
  else if behindName.startsWith ['!'] then
    let (identifier, after) ← readIdentifier false (behindName.drop 1)
    return (.tag (handleOf name) identifier, after)
  else
    let (octets, after) ← readOctets false 0 [] cursor.place cursor.rest
    let identifier := textOfOctets? octets
    if identifier = some "" then return (.tag "" (some "!"), after)
    else return (.tag "!" identifier, after)

/-- Reads a tag behind its exclamation mark.  It has to stand apart from what
follows. -/
def readTag (flow : Bool) (cursor : Cursor) : Option (YamlToken × Cursor) := do
  let (token, after) ← readTagBody cursor
  if endsWord after.rest || (flow && after.startsWith [',']) then return (token, after) else none

def readVersionNumber (cursor : Cursor) : Option (Nat × Cursor) :=
  let (digits, after) := cursor.span Char.isDigit
  if digits.isEmpty || 9 < digits.length then none
  else some (digits.foldl (fun number c => 10 * number + (c.toNat - '0'.toNat)) 0, after)

def readVersion (cursor : Cursor) : Option (YamlToken × Cursor) := do
  let (major, behindMajor) ← readVersionNumber (cursor.skip isBlank)
  if behindMajor.startsWith ['.'] then
    let (minor, after) ← readVersionNumber (behindMajor.drop 1)
    return (.version major minor, after)
  else none

/-- Reads a tag handle: `!`, `!!` or a name between exclamation marks. -/
def readHandleName (cursor : Cursor) : Option (String × Cursor) :=
  if cursor.startsWith ['!'] then
    let (name, behindName) := (cursor.drop 1).span isNameChar
    if behindName.startsWith ['!'] then some (handleOf name, behindName.drop 1)
    else if name.isEmpty then some ("!", behindName)
    else none
  else none

def readHandle (cursor : Cursor) : Option (YamlToken × Cursor) := do
  let (name, behindName) ← readHandleName (cursor.skip isBlank)
  if behindName.startsWith [' ', '\t'] then
    let (meaning, after) ← readIdentifier true (behindName.skip isBlank)
    if endsWord after.rest then return (.handle name meaning, after) else none
  else none

def readDirective (cursor : Cursor) : Option (YamlToken × Cursor) := do
  let (name, behindName) := cursor.span isNameChar
  if endsWord behindName.rest then
    let (token, after) ←
      if name = ['Y', 'A', 'M', 'L'] then readVersion behindName
      else if name = ['T', 'A', 'G'] then readHandle behindName
      else none
    return (token, ← after.endLine?)
  else none

end Yaml

end CompositeKey
