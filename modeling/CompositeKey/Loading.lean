import CompositeKey.Declaration.Decoder
import CompositeKey.Document.Json.Format
import CompositeKey.Document.Json.Reader
import CompositeKey.Document.Yaml.Format
import CompositeKey.Document.Yaml.Reader
import CompositeKey.Text.AsciiCase

/-!
# Loading declarations

A text holds a list of declarations in one document.  The extension of a file's
name tells its format.
-/

set_option autoImplicit false

namespace CompositeKey

inductive LoadError where
  | json
  | yaml
  | io
  | unsupportedExtension (extension : String)
deriving DecidableEq

def LoadError.message : LoadError → String
  | .json => "JSON error: not a list of key declarations"
  | .yaml => "YAML error: not a list of key declarations"
  | .io => "IO error: the file cannot be read"
  | .unsupportedExtension extension => s!"Unsupported: file extension '{extension}'"

/-- The declarations of a document, which may go down a number of levels and
follow a number of links. -/
def declarationsOf? {δ : Type} [Document δ] (levels links : Nat) (document : δ) :
    Option (List KeyDeclaration) :=
  (Decoder.list KeyDeclaration.decoder).run levels links document

def jsonLevels : Nat := 127

def yamlLevels : Nat := 128

/-- The number of aliases that may be followed in a YAML document.  It grows
with the document and no faster, so a short one cannot stand for too much. -/
def yamlLinks (document : Yaml) : Nat := 100 * document.size

def loadJson (text : String) : Except LoadError (List KeyDeclaration) :=
  match (Json.parse? text).bind (declarationsOf? jsonLevels 0) with
  | some declarations => .ok declarations
  | none => .error .json

def loadYaml (text : String) : Except LoadError (List KeyDeclaration) :=
  match (Yaml.parse? text).bind fun document =>
      declarationsOf? yamlLevels (yamlLinks document) document with
  | some declarations => .ok declarations
  | none => .error .yaml

/-- What stands behind the last dot of a file name.  A dot at the beginning of
the name does not count. -/
def fileExtension (name : String) : String :=
  let reversed := name.toList.reverse
  match reversed.dropWhile (· != '.') with
  | '.' :: _ :: _ => String.ofList (reversed.takeWhile (· != '.')).reverse
  | _ => ""

/-- Loads a file by its name and its content; a file that is not there has
none.  The content has to be a text whatever the extension is. -/
def loadFile (name : String) (content : Option ByteArray) :
    Except LoadError (List KeyDeclaration) :=
  match content.bind String.fromUTF8? with
  | none => .error .io
  | some text =>
      let extension := String.ofList (asciiFolded (fileExtension name))
      if extension = "json" then loadJson text
      else if extension = "yaml" ∨ extension = "yml" then loadYaml text
      else .error (.unsupportedExtension extension)

end CompositeKey
