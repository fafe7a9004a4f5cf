/-!
# Glyphs

A YAML text as a list of its characters with their places. Line ends of all kinds
but two become line feeds; the separators U+2028 and U+2029 end lines too and stay
as they are. A text with characters that YAML excludes has no glyphs.
-/

namespace PageHost.Yaml

/-- A character and its place. -/
structure Glyph where
  char : Char
  line : Nat
  column : Nat
  /-- The number of characters before it. -/
  index : Nat
deriving Repr, DecidableEq

/-- Characters that a YAML text may hold. -/
def isPrintable (c : Char) : Bool :=
  let n := c.toNat
  n == 9 || n == 10 || n == 13 || (0x20 ≤ n && n ≤ 0x7E) || n == 0x85 ||
    (0xA0 ≤ n && n ≤ 0xD7FF) || (0xE000 ≤ n && n ≤ 0xFFFD && n != 0xFEFF) || 0x10000 ≤ n

/-- Characters that end a line, once line ends are normalized. -/
def isBreak (c : Char) : Bool := c == '\n' || c == '\u2028' || c == '\u2029'

/-- Spaces and tabs. -/
def isSpace (c : Char) : Bool := c == ' ' || c == '\t'

/-- What stands between words: spaces, tabs and line ends. -/
def isGap (c : Char) : Bool := isSpace c || isBreak c

/-- Letters and digits of ASCII, hyphens and underscores. -/
def isWordChar (c : Char) : Bool := c.isAlphanum || c == '-' || c == '_'

/-- Gives the characters of a text their places, the first of which are known. -/
def place : Nat → Nat → Nat → List Char → List Glyph
  | _, _, _, [] => []
  | line, column, index, '\r' :: '\n' :: rest =>
    ⟨'\n', line, column, index⟩ :: place (line + 1) 0 (index + 2) rest
  | line, column, index, c :: rest =>
    let c := if c = '\r' ∨ c = '\u0085' then '\n' else c
    ⟨c, line, column, index⟩ ::
      (if isBreak c then place (line + 1) 0 (index + 1) rest
        else place line (column + 1) (index + 1) rest)

/-- The glyphs of a text. A byte order mark in front does not count. -/
def glyphs? (text : String) : Option (List Glyph) :=
  let chars := match text.toList with
    | '\uFEFF' :: rest => rest
    | chars => chars
  if chars.all isPrintable then some (place 0 0 0 chars) else none

/-! ## Looking ahead -/

/-- Whether the next glyph is of a class. -/
def next (p : Char → Bool) (s : List Glyph) : Bool := s.head?.any fun g => p g.char

/-- Whether the next character is the given one. -/
def nextIs (c : Char) (s : List Glyph) : Bool := next (· == c) s

/-- Whether the text ends here or goes on with a gap. -/
def atGap (s : List Glyph) : Bool := s.isEmpty || next isGap s

/-- Whether the line ends here. -/
def atLineEnd (s : List Glyph) : Bool := s.isEmpty || next isBreak s

/-- Whether a line starts here with three times the given character, and a gap. -/
def atMark (c : Char) (s : List Glyph) : Bool :=
  match s with
  | a :: b :: d :: rest =>
    a.column == 0 && a.char == c && b.char == c && d.char == c && atGap rest
  | _ => false

/-- Whether a document starts or ends here. -/
def atDocumentMark (s : List Glyph) : Bool := atMark '-' s || atMark '.' s

/-- The characters of glyphs. -/
def chars (s : List Glyph) : List Char := s.map (·.char)

/-- Splits off the glyphs of a class. -/
def takeClass (p : Char → Bool) (s : List Glyph) : List Char × List Glyph :=
  (chars (s.takeWhile fun g => p g.char), s.dropWhile fun g => p g.char)

/-- Drops the spaces and tabs in front. -/
def dropSpaces (s : List Glyph) : List Glyph := s.dropWhile fun g => isSpace g.char

/-- Drops a comment in front. -/
def dropComment (s : List Glyph) : List Glyph :=
  if nextIs '#' s then s.dropWhile fun g => !isBreak g.char else s

end PageHost.Yaml
