import PageHost.Text.Digits
import PageHost.Yaml.Glyph
/-!
# Scalars

The texts of plain, quoted and block scalars. A line end between words counts as
a space, and each empty line after it as a line end; only literal blocks keep all
line ends. None stands for a text that is malformed.
-/

namespace PageHost.Yaml

/-- How a scalar is written. -/
inductive ScalarStyle where
  | plain
  | quoted
  | literal
  | folded
deriving Repr, DecidableEq

/-! ## Gaps -/

/-- What line ends between words count as. -/
def foldBreaks : List Char → List Char
  | [] => []
  | ['\n'] => [' ']
  | '\n' :: more => more
  | breaks => breaks

/-- What a gap between words counts as. -/
def foldGap (gap : List Char) : List Char :=
  match gap.filter isBreak with
  | [] => gap
  | breaks => foldBreaks breaks

/-! ## Plain scalars -/

/-- Characters that end a plain scalar within brackets. -/
def endsFlowScalar (c : Char) : Bool := ",[]\x7b\x7d".toList.contains c

/-- Splits off the characters of a plain scalar up to the next gap. -/
def takePlainWord? (inFlow : Bool) : List Glyph → Option (List Char × List Glyph)
  | [] => some ([], [])
  | g :: rest =>
    if isGap g.char then some ([], g :: rest)
    else if inFlow && g.char == ':' && next (fun c => endsFlowScalar c || c == '?') rest then none
    else if (g.char == ':' && atGap rest) || (inFlow && endsFlowScalar g.char) then
      some ([], g :: rest)
    else (takePlainWord? inFlow rest).map fun (word, tail) => (g.char :: word, tail)

/-- Whether a gap has a tab after a line end and before the given column. -/
def tabBefore (column : Nat) (gap : List Glyph) : Bool :=
  (gap.dropWhile fun g => !isBreak g.char).any fun g => g.char == '\t' && decide (g.column < column)

/-- A plain scalar that was split off. -/
structure PlainScalar where
  text : List Char
  /-- Whether a line ends after it, in the gap that was dropped. -/
  lineEnded : Bool
  rest : List Glyph

/-- Splits off words of a plain scalar whose further lines are indented at least
to `indent`. `pending` is what the gap before counts as; `fuel` bounds the words. -/
def takePlainWords? (inFlow : Bool) (indent : Nat) :
    Nat → List Char → Bool → List Glyph → Option PlainScalar
  | 0, _, _, _ => none
  | fuel + 1, pending, lineEnded, s => do
    if atDocumentMark s || nextIs '#' s then return ⟨[], lineEnded, s⟩
    let (word, after) ← takePlainWord? inFlow s
    if word.isEmpty then return ⟨[], lineEnded, after⟩
    let gap := after.takeWhile fun g => isGap g.char
    let rest := after.drop gap.length
    if gap.isEmpty then return ⟨pending ++ word, false, rest⟩
    if tabBefore indent gap then none
    let lineEnded := gap.any fun g => isBreak g.char
    if !inFlow && rest.head?.any fun g => decide (g.column < indent) then
      return ⟨pending ++ word, lineEnded, rest⟩
    let more ← takePlainWords? inFlow indent fuel (foldGap (chars gap)) lineEnded rest
    return { more with text := pending ++ word ++ more.text }

/-- Splits off a plain scalar. -/
def takePlain? (inFlow : Bool) (indent : Nat) (s : List Glyph) : Option PlainScalar :=
  takePlainWords? inFlow indent (s.length + 1) [] false s

/-! ## Quoted scalars -/

/-- The number of digits after an escape that is given in hexadecimal. -/
def escapeDigits? : Char → Option Nat
  | 'x' => some 2
  | 'u' => some 4
  | 'U' => some 8
  | _ => none

/-- The character that an escape of one letter stands for. -/
def escapedChar? : Char → Option Char
  | '0' => some '\x00'
  | 'a' => some '\x07'
  | 'b' => some '\x08'
  | 't' | '\t' => some '\t'
  | 'n' => some '\n'
  | 'v' => some '\x0b'
  | 'f' => some '\x0c'
  | 'r' => some '\r'
  | 'e' => some '\x1b'
  | ' ' => some ' '
  | '"' => some '"'
  | '/' => some '/'
  | '\\' => some '\\'
  | 'N' => some '\u0085'
  | '_' => some '\u00A0'
  | 'L' => some '\u2028'
  | 'P' => some '\u2029'
  | _ => none

/-- The character of a code point, if there is one. -/
def charOf? (n : Nat) : Option Char := if Nat.isValidChar n then some (Char.ofNat n) else none

/-- Splits off an escape, after its backslash. -/
def takeEscape? : List Glyph → Option (Char × List Glyph)
  | [] => none
  | g :: rest =>
    match escapeDigits? g.char with
    | none => (escapedChar? g.char).map fun c => (c, rest)
    | some count =>
      let digits := chars (rest.take count)
      if digits.length < count then none
      else ((Text.digitsIn? 16 digits).bind charOf?).map fun c => (c, rest.drop count)

/-- Splits off a quoted scalar, after its opening quote; `fuel` bounds the steps. -/
def takeQuotedWithin? (quote : Char) : Nat → List Glyph → Option (List Char × List Glyph)
  | 0, _ => none
  | _, [] => none
  | fuel + 1, g :: rest =>
    let continueAfter (text : List Char) (s : List Glyph) : Option (List Char × List Glyph) :=
      (takeQuotedWithin? quote fuel s).map fun (more, tail) => (text ++ more, tail)
    let continueAtLine (text : List Char) (s : List Glyph) : Option (List Char × List Glyph) :=
      if atDocumentMark s then none else continueAfter text s
    if isGap g.char then
      let (gap, after) := takeClass isGap (g :: rest)
      continueAtLine (foldGap gap) after
    else if g.char = quote then
      if quote = '\x27' ∧ nextIs quote rest then continueAfter [quote] (rest.drop 1)
      else some ([], rest)
    else if g.char = '\\' ∧ quote = '"' then
      if next isBreak rest then
        let (gap, after) := takeClass isGap (rest.drop 1)
        continueAtLine (gap.filter isBreak) after
      else (takeEscape? rest).bind fun (c, after) => continueAfter [c] after
    else continueAfter [g.char] rest

/-- Splits off a quoted scalar, after its opening quote. -/
def takeQuoted? (quote : Char) (s : List Glyph) : Option (List Char × List Glyph) :=
  takeQuotedWithin? quote (s.length + 1) s

/-! ## Block scalars -/

/-- What happens to the line ends after a block. -/
inductive Chomping where
  /-- All are dropped. -/
  | strip
  /-- The first is kept. -/
  | clip
  /-- All are kept. -/
  | keep
deriving Repr, DecidableEq

/-- Splits off the sign of a chomping. -/
def takeChomping (s : List Glyph) : Option Chomping × List Glyph :=
  if nextIs '+' s then (some .keep, s.drop 1)
  else if nextIs '-' s then (some .strip, s.drop 1)
  else (none, s)

/-- Splits off an indentation from 1 to 9; 0 is malformed. -/
def takeIncrement? (s : List Glyph) : Option (Option Nat × List Glyph) :=
  match s with
  | g :: rest =>
    if g.char = '0' then none
    else if g.char.isDigit then some (some (g.char.toNat - 48), rest)
    else some (none, s)
  | [] => some (none, [])

/-- Splits off the header of a block, after its sign. -/
def takeBlockHeader? (s : List Glyph) : Option (Chomping × Option Nat × List Glyph) := do
  let (before, s) := takeChomping s
  let (increment, s) ← takeIncrement? s
  let (after, s) := if before.isNone && increment.isSome then takeChomping s else (none, s)
  let s := dropComment (dropSpaces s)
  guard (atLineEnd s)
  return ((before.or after).getD .clip, increment, s.drop 1)

/-- Splits off empty lines and the indentation of the line after them: the line
ends, the greatest column seen and the rest. With `indent` 0 the indentation is
not known yet. -/
def takeEmptyLines? (indent : Nat) : Nat → List Glyph → Option (List Char × Nat × List Glyph)
  | deepest, [] => some ([], deepest, [])
  | deepest, g :: rest =>
    let deepest := max deepest g.column
    let within := indent = 0 ∨ g.column < indent
    if g.char = ' ' ∧ within then takeEmptyLines? indent deepest rest
    else if g.char = '\t' ∧ within then none
    else if isBreak g.char then
      (takeEmptyLines? indent deepest rest).map fun (breaks, deepest, tail) =>
        (g.char :: breaks, deepest, tail)
    else some ([], deepest, g :: rest)

/-- A block read so far. -/
structure BlockState where
  text : List Char
  /-- The end of the last line. -/
  lineEnd : List Char
  /-- Whether the last line starts with a space. -/
  spaced : Bool
  /-- The ends of the empty lines after it. -/
  emptyLines : List Char

/-- What stands between two lines of a block. -/
def joint (literal : Bool) (state : BlockState) (spaced : Bool) : List Char :=
  if !literal && state.lineEnd == ['\n'] && !state.spaced && !spaced then
    if state.emptyLines.isEmpty then [' '] else state.emptyLines
  else state.lineEnd ++ state.emptyLines

/-- Reads the lines of a block; `fuel` bounds their number. -/
def takeBlockLines? (literal : Bool) (indent : Nat) :
    Nat → BlockState → List Glyph → Option (BlockState × List Glyph)
  | 0, _, _ => none
  | fuel + 1, state, s =>
    if s.head?.any fun g => g.column == indent then
      let spaced := next isSpace s
      let (line, after) := takeClass (fun c => !isBreak c) s
      let text := state.text ++ joint literal state spaced ++ line
      match takeEmptyLines? indent 0 (after.drop 1) with
      | none => none
      | some (emptyLines, _, rest) =>
        takeBlockLines? literal indent fuel ⟨text, chars (after.take 1), spaced, emptyLines⟩ rest
    else some (state, s)

/-- Splits off a block, after its sign. Its lines are indented more than the node
that holds it, which stands at the column `parent` if it is indented at all. -/
def takeBlock? (literal : Bool) (parent : Option Nat) (s : List Glyph) :
    Option (List Char × List Glyph) := do
  let (chomping, increment, s) ← takeBlockHeader? s
  let least := match parent with
    | none => 1
    | some column => column + 1
  let given := (increment.map fun n => parent.getD 0 + n).getD 0
  let (emptyLines, deepest, s) ← takeEmptyLines? given 0 s
  let indent := if given = 0 then max deepest least else given
  let (state, s) ← takeBlockLines? literal indent (s.length + 1) ⟨[], [], false, emptyLines⟩ s
  let tail := match chomping with
    | .strip => []
    | .clip => state.lineEnd
    | .keep => state.lineEnd ++ state.emptyLines
  return (state.text ++ tail, s)

end PageHost.Yaml
