import PageHost.Url.Basic
/-!
# Paths

A path is read segment by segment. A segment of one dot, or of two, moves within
the path read so far; the dots may be encoded. Paths of files keep a drive
letter, a letter and a colon, as their first segment, and have no empty segments
at the front.
-/

namespace PageHost.Url

/-- Whether a character separates segments. -/
def isSeparator (kind : SchemeKind) (c : Char) : Bool := c == '/' || (kind.isSpecial && c == '\\')

/-- Whether a text is a letter followed by a colon or a bar. -/
def isDriveLetter : List Char → Bool
  | [a, b] => a.isAlpha && (b == ':' || b == '|')
  | _ => false

/-- Whether a text is a letter followed by a colon. -/
def isNormalDrive : List Char → Bool
  | [a, b] => a.isAlpha && b == ':'
  | _ => false

/-- Whether a text starts with a drive letter that ends there or before a delimiter. -/
def startsWithDrive : List Char → Bool
  | [a, b] => isDriveLetter [a, b]
  | a :: b :: c :: _ =>
    isDriveLetter [a, b] && (c == '/' || c == '\\' || c == '?' || c == '#')
  | _ => false

/-- The part of a path up to and including its last slash. -/
def uptoLastSlash (path : List Char) : List Char := (path.reverse.dropWhile (· != '/')).reverse

/-- The part of a path after its last slash. -/
def afterLastSlash (path : List Char) : List Char := (path.reverse.takeWhile (· != '/')).reverse

/-- Drops the last segment, but not the drive letter of a file. -/
def dropSegment (kind : SchemeKind) (path : List Char) : List Char :=
  if kind = .file && isNormalDrive (afterLastSlash path) then path else uptoLastSlash path

/-- Whether the slash at the end of a path may go: another one stands before it,
and it does not end a drive letter. -/
def canDropSlash (path : List Char) : Bool :=
  let before := path.dropLast
  before.contains '/' && !startsWithDrive (afterLastSlash before ++ ['/'])

/-- The path one segment up. -/
def parentPath (kind : SchemeKind) (path : List Char) : List Char :=
  let trimmed := if path.getLast? = some '/' && canDropSlash path then path.dropLast else path
  dropSegment kind trimmed

/-- Whether a segment stands for the path one up. -/
def isDoubleDot (segment : List Char) : Bool :=
  let lower := segment.map Char.toLower
  ["..", "%2e%2e", "%2e.", ".%2e"].any fun form => form.toList == lower

/-- Whether a segment stands for the path itself. -/
def isSingleDot (segment : List Char) : Bool :=
  let lower := segment.map Char.toLower
  [".", "%2e"].any fun form => form.toList == lower

/-- How a segment ends. -/
inductive SegmentEnd where
  | separator
  /-- At the query, the fragment or the end of the text. -/
  | pathEnd
deriving Repr, DecidableEq

/-- Splits off a segment: its characters, how it ends and what follows. -/
def takeSegment (kind : SchemeKind) : List Char → List Char × SegmentEnd × List Char
  | [] => ([], .pathEnd, [])
  | c :: rest =>
    if isSeparator kind c then ([], .separator, rest)
    else if c = '?' ∨ c = '#' then ([], .pathEnd, c :: rest)
    else
      let tail := takeSegment kind rest
      (c :: tail.1, tail.2.1, tail.2.2)

/-- What follows a separator is shorter than the text. -/
theorem takeSegment_length (kind : SchemeKind) (s : List Char)
    (h : (takeSegment kind s).2.1 = .separator) : (takeSegment kind s).2.2.length < s.length := by
  induction s with
  | nil => simp [takeSegment] at h
  | cons c rest ih =>
    unfold takeSegment at h ⊢
    split
    · simp
    · next hc =>
      simp only [hc, Bool.false_eq_true, if_false] at h
      split
      · next hq => simp [hq] at h
      · next hq =>
        simp only [hq, if_false] at h
        have := ih h
        simp only [List.length_cons]
        omega

/-- A path with a slash at its end. -/
def closeSlash (path : List Char) : List Char :=
  if path.getLast? = some '/' then path else path ++ ['/']

/-- A path read so far. -/
structure PathState where
  path : List Char
  /-- Whether a drive letter came first, which leaves no host. -/
  sawDrive : Bool

/-- Adds a segment to a path. -/
def addSegment (kind : SchemeKind) (state : PathState) (raw : List Char) (ending : SegmentEnd) :
    PathState :=
  let base := if kind = .file && isNormalDrive (state.path.drop 1) && !raw.isEmpty
    then state.path ++ ['/'] else state.path
  let segment := percentEncode pathSet raw
  let slash := if ending = .separator then ['/'] else []
  if isDoubleDot segment then
    let up := parentPath kind base
    { state with path := if ending = .separator then closeSlash up else up }
  else if isSingleDot segment then { state with path := closeSlash base }
  else
    match segment with
    | [letter, _] =>
      if kind = .file && base.length == 1 && isDriveLetter segment then
        ⟨base ++ letter :: ':' :: slash, true⟩
      else { state with path := base ++ segment ++ slash }
    | _ => { state with path := base ++ segment ++ slash }

/-- Reads segments onto a path up to its end; what follows the path. -/
def addSegments (kind : SchemeKind) (state : PathState) (s : List Char) : PathState × List Char :=
  let piece := takeSegment kind s
  let next := addSegment kind state piece.1 piece.2.1
  if _h : piece.2.1 = .separator then addSegments kind next piece.2.2 else (next, piece.2.2)
termination_by s.length
decreasing_by exact takeSegment_length kind s _h

/-- The path of a file with one slash at its front. -/
def singleSlash (path : List Char) : List Char := '/' :: path.dropWhile (· == '/')

/-- Reads a path that continues the given one; what follows the path. -/
def readPath (kind : SchemeKind) (start : List Char) (s : List Char) : PathState × List Char :=
  let (state, rest) := addSegments kind ⟨start, false⟩ s
  if kind = .file then ({ state with path := singleSlash state.path }, rest) else (state, rest)

end PageHost.Url
