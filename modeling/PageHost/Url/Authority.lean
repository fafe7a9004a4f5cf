import PageHost.Url.Basic
import PageHost.Url.Path
/-!
# Authorities

What stands between two slashes and the path: a user name and a password before
the last at sign, a host, and a port after a colon. A port that the scheme uses
anyway is dropped.
-/

namespace PageHost.Url

/-- Whether a character ends an authority. -/
def endsAuthority (kind : SchemeKind) (c : Char) : Bool :=
  isSeparator kind c || c == '?' || c == '#'

/-! ## Credentials -/

/-- The text before the last at sign of an authority, and the text after it. -/
def splitAtLastAt? (kind : SchemeKind) (s : List Char) : Option (List Char × List Char) :=
  let authority := s.takeWhile fun c => !endsAuthority kind c
  if authority.contains '@' then
    let host := (authority.reverse.takeWhile (· != '@')).reverse
    let before := authority.length - host.length - 1
    some (s.take before, s.drop (before + 1))
  else none

/-- A user name, and a password unless it is empty. -/
structure Credentials where
  username : String
  password : Option String
deriving Repr, DecidableEq

/-- No user name and no password. -/
def Credentials.none : Credentials := ⟨"", Option.none⟩

/-- Whether there is neither. -/
def Credentials.isNone (c : Credentials) : Bool := c.username.isEmpty && c.password.isNone

/-- The credentials in the text before an at sign. -/
def readCredentials (s : List Char) : Credentials :=
  let username := s.takeWhile (· != ':')
  let password := (s.dropWhile (· != ':')).drop 1
  ⟨String.ofList (percentEncode userinfoSet username),
    if password.isEmpty then none else some (String.ofList (percentEncode userinfoSet password))⟩

/-- Splits off the credentials. An at sign with nothing on either side of it is
an error. -/
def takeCredentials (kind : SchemeKind) (s : List Char) :
    Except UrlError (Credentials × List Char) :=
  match splitAtLastAt? kind s with
  | none => .ok (.none, s)
  | some ([], rest) =>
    match rest with
    | c :: _ => if endsAuthority kind c then .error .emptyHost else .ok (.none, rest)
    | [] => .ok (.none, [])
  | some (before, rest) => .ok (readCredentials before, rest)

/-! ## Host and port -/

/-- The number of characters of a host: up to a colon outside brackets or the
end of the authority. -/
def hostLength (kind : SchemeKind) : Bool → List Char → Nat
  | _, [] => 0
  | bracketed, c :: rest =>
    if (c = ':' && !bracketed) || endsAuthority kind c then 0
    else hostLength kind (if c = '[' then true else if c = ']' then false else bracketed) rest + 1

/-- Reads the host of a scheme other than `file`. -/
def readHost (kind : SchemeKind) (s : List Char) : Except UrlError Host :=
  match kind, s with
  | .other, s => Host.readUninterpreted s
  | _, [] => .error .emptyHost
  | _, s => Host.read s

/-- Splits off a port, after its colon; none without digits and for the default
port. -/
def takePort (scheme : String) (s : List Char) : Except UrlError (Option Nat × List Char) :=
  let digits := s.takeWhile Char.isDigit
  let rest := s.dropWhile Char.isDigit
  let port := (Text.digitsIn? 10 digits).getD 0
  if 65535 < port then .error .invalidPort
  else if rest.head?.any fun c => !(c == '/' || c == '\\' || c == '?' || c == '#') then
    .error .invalidPort
  else .ok (if digits.isEmpty || defaultPort? scheme = some port then none else some port, rest)

/-- Reads an authority, after the two slashes; what follows it. -/
def takeAuthority (scheme : String) (s : List Char) : Except UrlError (Authority × List Char) := do
  let kind := schemeKind scheme
  let (credentials, s) ← takeCredentials kind s
  let length := hostLength kind false s
  let host ← readHost kind (s.take length)
  match s.drop length with
  | ':' :: rest =>
    if host = .empty then throw .emptyHost
    let (port, rest) ← takePort scheme rest
    return (⟨credentials.username, credentials.password, host, port⟩, rest)
  | rest =>
    if host = .empty ∧ !credentials.isNone then throw .emptyHost
    return (⟨credentials.username, credentials.password, host, none⟩, rest)

end PageHost.Url
