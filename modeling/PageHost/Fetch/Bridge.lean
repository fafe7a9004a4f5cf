import PageHost.Config.Reader
import PageHost.Files
import PageHost.Fetch.Body
import PageHost.Fetch.Request
import PageHost.Url.FilePath
import PageHost.Url.Reference
/-!
# Fetching

A bridge resolves the URLs of requests against its base, checks what a request
would send and fetches files.
-/

namespace PageHost

namespace Fetch

/-- Why a bridge cannot be built. -/
inductive BridgeError where
  /-- The user agent cannot be the value of a header. -/
  | userAgent
  | baseUrl (cause : Url.UrlError)
deriving Repr, DecidableEq

/-- The text of an error. -/
def BridgeError.message : BridgeError → String
  | .userAgent => "builder error"
  | .baseUrl cause => "invalid base_url: " ++ cause.message

/-- Why a request fails. -/
inductive FetchError where
  | invalidUrl (text : String) (cause : Url.UrlError)
  | invalidMethod (method : String)
  | invalidHeader (name : String)
  | file (cause : FileError)
deriving Repr, DecidableEq

/-- The text of an error; for a file its cause alone. -/
def FetchError.message : FetchError → String
  | .invalidUrl text cause => "invalid URL '" ++ text ++ "': " ++ cause.message
  | .invalidMethod method => "invalid method '" ++ method ++ "'"
  | .invalidHeader name => "invalid header '" ++ name ++ "'"
  | .file cause => cause.message

/-- The answer to a request. -/
structure Response where
  url : String
  status : Nat
  contentType : Option String
  body : Body

/-- Whether the status is one of success. -/
def Response.ok (r : Response) : Bool := decide (200 ≤ r.status ∧ r.status < 300)

/-! ## Files -/

/-- Fetches a file. -/
def fetchFile (files : Files) (url : Url) : Except FetchError Response :=
  match url.filePath? with
  | none => .error (.file .invalidUrl)
  | some path =>
    match files.read path with
    | .error e => .error (.file e)
    | .ok bytes =>
      let type := (extension? (Files.nameOf path)).bind typeOfExtension?
      .ok ⟨url.href, 200, type, .classify type bytes⟩

/-! ## Requests -/

/-- Checks the headers of a request in order, the name of each before its value. -/
def checkHeaders : List (String × String) → Except FetchError Unit
  | [] => .ok ()
  | (name, value) :: rest =>
    if !isHeaderName name then .error (.invalidHeader name)
    else if !isHeaderValue value then .error (.invalidHeader (Text.lowerAscii name))
    else checkHeaders rest

/-- What becomes of a request. -/
inductive Served where
  | answered (response : Response)
  /-- The request goes to the network. -/
  | sent (url : Url)

/-- What fetches for a page. -/
structure Bridge where
  base : Url
deriving Repr, DecidableEq

namespace Bridge

/-- The bridge of a configuration. The user agent is checked first. -/
def ofConfig (config : Config) : Except BridgeError Bridge :=
  if !isHeaderValue config.userAgent then .error .userAgent
  else
    match config.base with
    | .error e => .error (.baseUrl e)
    | .ok base => .ok ⟨base⟩

/-- The URL of a request. Blanks around it do not count. -/
def resolve (b : Bridge) (reference : String) : Except FetchError Url :=
  let text := Text.trimBlanks reference
  match b.base.join text with
  | .error e => .error (.invalidUrl text e)
  | .ok url => .ok url

/-- Serves a request: a file at once, and any other after its method and then its
headers are found valid. -/
def fetch (b : Bridge) (files : Files) (r : Request) :
    Except FetchError Served := do
  let url ← b.resolve r.url
  if url.kind = .file then return .answered (← fetchFile files url)
  if !isMethod r.method then throw (.invalidMethod r.method)
  checkHeaders r.headers
  return .sent url

end Bridge

end Fetch

end PageHost
