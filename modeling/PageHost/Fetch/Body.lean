import PageHost.Json.Reader
import PageHost.Text.Blank
import PageHost.Text.Utf8
/-!
# Bodies

How the bytes of an answer are read, by the type of its content. JSON that does
not parse is taken for text, and text that is not UTF-8 for bytes.
-/

namespace PageHost.Fetch

/-- The body of an answer. -/
inductive Body where
  | json (value : Json)
  | text (value : String)
  | bytes (value : List UInt8)

/-- The type itself, without parameters and in lower case. -/
def essence (contentType : String) : String :=
  Text.lowerAscii (Text.trimBlanks (String.ofList (contentType.toList.takeWhile (· != ';'))))

/-- Whether a type is that of JSON. -/
def isJsonType (essence : String) : Bool :=
  essence == "application/json" || essence.endsWith "+json"

/-- Whether a type is that of a text. -/
def isTextType (essence : String) : Bool := essence.startsWith "text/"

namespace Body

/-- Bytes as text, if they are UTF-8. -/
def ofText (bytes : List UInt8) : Body :=
  match Text.decodeUtf8? bytes with
  | some s => .text s
  | none => .bytes bytes

/-- Bytes as JSON, of which a repeated name keeps its last value. -/
def ofJsonText (bytes : List UInt8) : Body :=
  match (Text.decodeUtf8? bytes).bind Json.parse? with
  | some value => .json value.lastWins
  | none => ofText bytes

/-- The body that bytes of a type hold. -/
def classify (contentType : Option String) (bytes : List UInt8) : Body :=
  let type := essence (contentType.getD "")
  if isJsonType type then ofJsonText bytes
  else if isTextType type then ofText bytes
  else .bytes bytes

end Body

/-! ## Types of files -/

/-- What follows the last dot of a file name, if something stands before it. -/
def extension? (name : List UInt8) : Option String :=
  let dot : UInt8 := 46
  let after := (name.reverse.takeWhile (· != dot)).reverse
  if after.length + 1 < name.length then Text.decodeUtf8? after else none

/-- The type of a file by its extension. -/
def typeOfExtension? (extension : String) : Option String :=
  match Text.lowerAscii extension with
  | "json" => some "application/json"
  | "html" | "htm" => some "text/html"
  | "txt" => some "text/plain"
  | "css" => some "text/css"
  | "js" | "mjs" => some "text/javascript"
  | _ => none

end PageHost.Fetch
