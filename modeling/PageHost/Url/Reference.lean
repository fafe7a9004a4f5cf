import PageHost.Text.Blank
import PageHost.Url.Authority
/-!
# References

A reference is a text that names a URL, alone or relative to a base. One with a
scheme of its own stands alone, except that a special scheme equal to that of
the base may be followed by a relative part. Any other replaces the end of the
base: its fragment, its query, the last segment of its path, its path or all
after its scheme. White space around a reference, and tabs and line ends within
it, do not count.
-/

namespace PageHost.Url

/-- A reference without the characters that do not count. -/
def significant (s : String) : List Char :=
  (Text.trimBoth (fun c => c.toNat ≤ 0x20) s.toList).filter fun c =>
    !(c == '\t' || c == '\n' || c == '\r')

/-- Splits off a scheme, in lower case and without its colon. -/
def takeScheme? (s : List Char) : Option (String × List Char) :=
  let name := s.takeWhile fun c => c.isAlphanum || c == '+' || c == '-' || c == '.'
  match name, s.drop name.length with
  | c :: _, ':' :: rest =>
    if c.isAlpha then some (String.ofList (name.map Char.toLower), rest) else none
  | _, _ => none

/-! ## After the path -/

/-- Reads a fragment, after its sign. -/
def readFragment (s : List Char) : String := String.ofList (percentEncode fragmentSet s)

/-- Reads what follows a path: a query, a fragment, both or neither. -/
def readTail (kind : SchemeKind) (s : List Char) : Option String × Option String :=
  match s with
  | '?' :: rest =>
    let encoded := if kind.isSpecial then specialQuerySet else querySet
    let query := rest.takeWhile (· != '#')
    let fragment := rest.dropWhile (· != '#')
    (some (String.ofList (percentEncode encoded query)),
      if fragment.isEmpty then none else some (readFragment (fragment.drop 1)))
  | '#' :: rest => (none, some (readFragment rest))
  | _ => (none, none)

/-- A URL with what follows its path. -/
def withTail (scheme : String) (authority : Option Authority) (path : List Char)
    (tail : List Char) : Url :=
  let (query, fragment) := readTail (schemeKind scheme) tail
  ⟨scheme, authority, String.ofList path, query, fragment⟩

/-- Reads a path that continues the given one, and what follows it. -/
def withPath (scheme : String) (authority : Option Authority) (start : List Char)
    (s : List Char) : Url :=
  let (state, tail) := readPath (schemeKind scheme) start s
  let authority := if state.sawDrive then authority.map fun _ => .ofHost .empty else authority
  withTail scheme authority state.path tail

/-- Drops a separator at the front. -/
def dropSeparator (kind : SchemeKind) : List Char → List Char
  | c :: rest => if isSeparator kind c then rest else c :: rest
  | [] => []

/-- Reads what follows an authority. -/
def afterAuthority (scheme : String) (authority : Authority) (s : List Char) : Url :=
  let kind := schemeKind scheme
  if kind.isSpecial then withPath scheme (some authority) ['/'] (dropSeparator kind s)
  else
    match s with
    | [] => withTail scheme (some authority) [] []
    | '?' :: _ | '#' :: _ => withTail scheme (some authority) [] s
    | '/' :: _ => withPath scheme (some authority) [] s
    | _ => withPath scheme (some authority) ['/'] s

/-- Reads what follows the two slashes of a scheme other than `file`. -/
def afterSlashes (scheme : String) (s : List Char) : Except UrlError Url := do
  let (authority, rest) ← takeAuthority scheme s
  return afterAuthority scheme authority rest

/-! ## Relative references -/

/-- A base without its fragment. -/
def withoutFragment (base : Url) : Url := { base with fragment := none }

/-- A base with another fragment. -/
def withFragment (base : Url) (s : List Char) : Url :=
  { base with fragment := some (readFragment s) }

/-- A base with what follows its path replaced. -/
def replaceTail (base : Url) (s : List Char) : Url :=
  withTail base.scheme base.authority base.path.toList s

/-- Whether a character is a slash of either direction. -/
def isSlash (c : Char) : Bool := c == '/' || c == '\\'

/-- Reads a relative reference after a base that is neither opaque nor a file. -/
def readRelative (base : Url) (s : List Char) : Except UrlError Url :=
  match s with
  | [] => .ok base.withoutFragment
  | '?' :: _ => .ok (base.replaceTail s)
  | '#' :: rest => .ok (base.withFragment rest)
  | c :: rest =>
    if isSlash c then
      match s with
      | '/' :: '/' :: rest => afterSlashes base.scheme rest
      | _ =>
        if rest.head?.any isSlash then afterSlashes base.scheme (s.dropWhile isSlash)
        else .ok (withPath base.scheme base.authority ['/'] rest)
    else
      let folder := dropSegment base.kind base.path.toList
      .ok (withPath base.scheme base.authority (if folder.isEmpty then ['/'] else folder) s)

/-! ## Files -/

/-- The authority of a file on a host. -/
def fileAuthority (host : Host) : Option Authority := some (.ofHost host)

/-- Reads the host of a file, after the two slashes. A drive letter is no host,
and `localhost` is the same as none. -/
def takeFileHost (s : List Char) : Except UrlError (Host × List Char) :=
  let text := s.takeWhile fun c => !endsAuthority .file c
  let rest := s.dropWhile fun c => !endsAuthority .file c
  if isDriveLetter text then .ok (.empty, s)
  else if text.isEmpty then .ok (.empty, rest)
  else
    match Host.read text with
    | .error e => .error e
    | .ok host => .ok (if host = .domain "localhost" then .empty else host, rest)

/-- The first segment of a path. -/
def firstSegment (path : List Char) : List Char := (path.drop 1).takeWhile (· != '/')

/-- Reads a path from the root of the base's drive or host. -/
def readRooted (base : Option Url) (s : List Char) : Url :=
  let host := Host.empty
  match base with
  | none => withPath "file" (fileAuthority host) [] s
  | some base =>
    let drive := firstSegment base.path.toList
    if startsWithDrive (s.drop 1) then withPath "file" (fileAuthority host) [] s
    else if isNormalDrive drive then withPath "file" (fileAuthority host) ('/' :: drive) s
    else
      withPath "file" (fileAuthority ((base.authority.map (·.host)).getD host)) [] s

/-- Reads what follows the scheme `file`, which may be relative to another file. -/
def readFile (base : Option Url) (s : List Char) : Except UrlError Url :=
  match s with
  | c :: d :: rest =>
    if isSlash c && isSlash d then
      match takeFileHost rest with
      | .error e => .error e
      | .ok (host, rest) =>
        if host = .empty then
          .ok (withPath "file" (fileAuthority host) [] (if rest.head?.any isSlash then rest else '/' :: rest))
        else .ok (afterAuthority "file" (.ofHost host) rest)
    else if isSlash c then .ok (readRooted base s)
    else .ok (readInFolder base s)
  | [c] => if isSlash c then .ok (readRooted base s) else .ok (readInFolder base s)
  | [] => .ok (readInFolder base s)
where
  /-- Reads a reference without a slash at its front. -/
  readInFolder (base : Option Url) (s : List Char) : Url :=
    match base with
    | none => withPath "file" (fileAuthority .empty) ['/'] s
    | some base =>
      match s with
      | [] => base.withoutFragment
      | '?' :: _ => base.replaceTail s
      | '#' :: rest => base.withFragment rest
      | _ =>
        if startsWithDrive s then withPath "file" (fileAuthority .empty) ['/'] s
        else withPath "file" base.authority (dropSegment .file base.path.toList) s

/-! ## Any reference -/

/-- Reads what follows a scheme that is not special. -/
def readOther (scheme : String) (s : List Char) : Except UrlError Url :=
  match s with
  | '/' :: '/' :: rest => afterSlashes scheme rest
  | '/' :: rest => .ok (withPath scheme none ['/'] rest)
  | _ =>
    let ends (c : Char) : Bool := c == '?' || c == '#'
    let path := s.takeWhile fun c => !ends c
    .ok (withTail scheme none (percentEncode controlSet path) (s.dropWhile fun c => !ends c))

/-- Reads what follows a scheme. -/
def readAfterScheme (base : Option Url) (scheme : String) (s : List Char) : Except UrlError Url :=
  let sibling := base.filter fun base => base.scheme == scheme
  match schemeKind scheme with
  | .file => readFile sibling s
  | .other => readOther scheme s
  | .special =>
    match sibling with
    | some base =>
      if (s.takeWhile isSlash).length < 2 then readRelative base s
      else afterSlashes scheme (s.dropWhile isSlash)
    | none => afterSlashes scheme (s.dropWhile isSlash)

/-- Reads a reference without a scheme. -/
def readWithoutScheme (base : Option Url) (s : List Char) : Except UrlError Url :=
  match base with
  | none => .error .relativeWithoutBase
  | some base =>
    match s with
    | '#' :: rest => .ok (base.withFragment rest)
    | _ =>
      if base.isOpaque then .error .relativeWithOpaqueBase
      else if base.kind = .file then readFile (some base) s
      else readRelative base s

/-- The URL that a reference names. -/
def readReference (base : Option Url) (reference : String) : Except UrlError Url :=
  let s := significant reference
  match takeScheme? s with
  | some (scheme, rest) => readAfterScheme base scheme rest
  | none => readWithoutScheme base s

/-- The URL that a text names without a base. -/
def parse (text : String) : Except UrlError Url := readReference none text

/-- The URL that a reference names relative to a base. -/
def join (base : Url) (reference : String) : Except UrlError Url :=
  readReference (some base) reference

/-! ## Origins -/

/-- The origin of a URL of a scheme other than `blob`. -/
def plainOrigin (url : Url) : Origin :=
  match url.kind, url.authority with
  | .special, some a => .tuple url.scheme a.host ((a.port.or (defaultPort? url.scheme)).getD 0)
  | _, _ => .opaqueOrigin

/-- The origin of a URL, through at most `depth` URLs of the scheme `blob`. -/
def originWithin : Nat → Url → Origin
  | 0, _ => .opaqueOrigin
  | depth + 1, url =>
    if url.scheme = "blob" then
      match parse url.path with
      | .ok inner => originWithin depth inner
      | .error _ => .opaqueOrigin
    else url.plainOrigin

/-- The origin of a URL. A blob belongs to whom the URL in its path belongs to. -/
def origin (url : Url) : Origin := originWithin (url.path.length + 1) url

end PageHost.Url
