import PageHost.Url.Host
/-!
# URLs

A URL taken apart, and its written form. The schemes of the web are special:
they always have a host and treat backslashes as slashes. A URL without an
authority whose path does not start with a slash has an opaque path; nothing but
a fragment can be resolved against it.
-/

namespace PageHost

namespace Url

/-- How a scheme is treated. -/
inductive SchemeKind where
  | file
  /-- A scheme of the web other than `file`. -/
  | special
  | other
deriving Repr, DecidableEq

/-- The kind of a scheme in lower case. -/
def schemeKind (scheme : String) : SchemeKind :=
  if scheme = "file" then .file
  else if scheme = "http" ∨ scheme = "https" ∨ scheme = "ws" ∨ scheme = "wss" ∨ scheme = "ftp" then
    .special
  else .other

/-- Whether backslashes count as slashes. -/
def SchemeKind.isSpecial : SchemeKind → Bool
  | .file | .special => true
  | .other => false

/-- The port that a scheme uses unless another is given. -/
def defaultPort? (scheme : String) : Option Nat :=
  match scheme with
  | "http" | "ws" => some 80
  | "https" | "wss" => some 443
  | "ftp" => some 21
  | _ => none

/-- What stands between two slashes and the path. -/
structure Authority where
  /-- Encoded. -/
  username : String
  /-- Encoded, and none rather than empty. -/
  password : Option String
  host : Host
  /-- None for the default port of the scheme. -/
  port : Option Nat
deriving Repr, DecidableEq

end Url

/-- A URL. -/
structure Url where
  /-- In lower case. -/
  scheme : String
  authority : Option Url.Authority
  /-- Encoded. It starts with a slash, or is opaque, or is empty after an authority. -/
  path : String
  query : Option String
  fragment : Option String
deriving Repr, DecidableEq

namespace Url

namespace Authority

/-- A host alone. -/
def ofHost (host : Host) : Authority := ⟨"", none, host, none⟩

/-- The user name and password with the sign after them, if there are any. -/
def credentials (a : Authority) : List Char :=
  match a.username, a.password with
  | "", none => []
  | username, none => username.toList ++ ['@']
  | username, some password => username.toList ++ ':' :: (password.toList ++ ['@'])

/-- The written form of an authority. -/
def text (a : Authority) : List Char :=
  a.credentials ++ a.host.text ++
    (match a.port with
      | none => []
      | some port => ':' :: (toString port).toList)

end Authority

/-- The kind of the scheme. -/
def kind (url : Url) : SchemeKind := schemeKind url.scheme

/-- Whether the path is opaque. -/
def isOpaque (url : Url) : Bool := url.authority.isNone && url.path.toList.head? != some '/'

/-- The authority as it is written. Where there is none, a path of two slashes
is kept apart from one by a dot. -/
def authorityText (url : Url) : List Char :=
  match url.authority with
  | some a => '/' :: '/' :: a.text
  | none =>
    match url.path.toList with
    | '/' :: '/' :: _ => ['/', '.']
    | _ => []

/-- The written form of a URL. -/
def href (url : Url) : String :=
  String.ofList (url.scheme.toList ++ ':' :: (url.authorityText ++ url.path.toList ++
    (match url.query with
      | none => []
      | some query => '?' :: query.toList) ++
    (match url.fragment with
      | none => []
      | some fragment => '#' :: fragment.toList)))

/-! ## Origins -/

/-- Who a URL belongs to. -/
inductive Origin where
  /-- An origin that is equal to none, not even itself. -/
  | opaqueOrigin
  | tuple (scheme : String) (host : Host) (port : Nat)
deriving Repr, DecidableEq

/-- Whether two origins are the same. -/
def Origin.same : Origin → Origin → Bool
  | .tuple s h p, .tuple s' h' p' => s == s' && h == h' && p == p'
  | _, _ => false

/-- The written form of an origin; the default port of its scheme is left out. -/
def Origin.text : Origin → String
  | .opaqueOrigin => "null"
  | .tuple scheme host port =>
    scheme ++ "://" ++ String.ofList host.text ++
      (if defaultPort? scheme = some port then "" else ":" ++ toString port)

end Url

end PageHost
