import PageHost.Url.Basic
/-!
# Paths of files

A file URL without a host names a path, whose bytes are the decoded path of the
URL. A path that would end in a drive letter ends in a slash instead.
-/

namespace PageHost.Url

/-- What a segment of the path of a file encodes. -/
def segmentSet (c : Char) : Bool := pathSet c || c == '/' || c == '%' || c == '\\'

/-- The URL of a path, given by its segments. -/
def ofFilePath (segments : List String) : Url where
  scheme := "file"
  authority := some (.ofHost .empty)
  path := String.ofList ('/' ::
    List.intercalate ['/'] (segments.map fun s => percentEncode segmentSet s.toList))
  query := none
  fragment := none

/-- Whether a byte is an ASCII letter. -/
def isLetterByte (b : UInt8) : Bool := (65 ≤ b && b ≤ 90) || (97 ≤ b && b ≤ 122)

/-- Whether a path ends in a drive letter. -/
def endsInDrive (path : List UInt8) : Bool :=
  match path.reverse with
  | sign :: letter :: _ :: _ => (sign == 58 || sign == 124) && isLetterByte letter
  | _ => false

/-- The bytes of the path that a URL names, unless it has a host or an opaque path. -/
def filePath? (url : Url) : Option (List UInt8) :=
  let host := (url.authority.map (·.host)).getD .empty
  if !url.isOpaque && (host == .empty || host == .domain "localhost") then
    let path := percentDecode (Text.utf8Bytes url.path.toList)
    some (if endsInDrive path then path ++ [47] else path)
  else none

end PageHost.Url
