import PageHost.Yaml.Scalar
/-!
# Tokens

The tokens of a YAML text. Indentation is made explicit: a block collection opens
at the column of its first entry and closes where a line starts further left. A
mapping key is known only by the colon after it, so the tokens that open the
mapping and the key are put in front of tokens that are there already.
-/

namespace PageHost.Yaml

/-- A token. -/
inductive Token where
  | version (major minor : Nat)
  | tagShorthand (handle lead : String)
  | documentStart
  | documentEnd
  | blockSequenceStart
  | blockMappingStart
  | blockEnd
  | flowSequenceStart
  | flowSequenceEnd
  | flowMappingStart
  | flowMappingEnd
  | blockEntry
  | flowEntry
  | key
  | value
  | reference (anchor : String)
  | anchor (name : String)
  | tag (handle suffix : String)
  | scalar (text : String) (style : ScalarStyle)
deriving Repr, DecidableEq

/-- Where a key may have started. -/
structure KeyStart where
  /-- The number of tokens before it. -/
  position : Nat
  line : Nat
  column : Nat
  index : Nat
  /-- Whether nothing but a key can stand there. -/
  required : Bool
deriving Repr, DecidableEq

/-- What is known after some tokens. -/
structure Lexer where
  tokens : List Token
  /-- The columns of the open block collections, the innermost first. -/
  indents : List Nat
  /-- Where a key may have started at each level of brackets, the innermost first. -/
  keyStarts : List (Option KeyStart)
  /-- Whether a key may start here. -/
  keyAllowed : Bool
deriving Repr

namespace Lexer

/-- Before the first token. -/
def start : Lexer := ⟨[], [], [none], true⟩

/-- Whether brackets are open. -/
def inFlow (l : Lexer) : Bool := decide (1 < l.keyStarts.length)

/-- Adds a token. -/
def push (l : Lexer) (token : Token) : Lexer := { l with tokens := l.tokens ++ [token] }

/-- Puts a token in front of those after a position. -/
def insert (l : Lexer) (position : Nat) (token : Token) : Lexer :=
  { l with tokens := l.tokens.take position ++ token :: l.tokens.drop position }

/-- Sets whether a key may start. -/
def allowKey (l : Lexer) (allowed : Bool) : Lexer := { l with keyAllowed := allowed }

/-- The place where a key may have started. -/
def keyStart? (l : Lexer) : Option KeyStart := l.keyStarts.head?.join

/-- Forgets where a key may have started; malformed if there had to be one. -/
def forgetKey? (l : Lexer) : Option Lexer :=
  if l.keyStart?.any (·.required) then none
  else some { l with keyStarts := none :: l.keyStarts.drop 1 }

/-- Notes that a key may start at a glyph. -/
def noteKey? (l : Lexer) (g : Glyph) : Option Lexer :=
  if l.keyAllowed then do
    let l ← l.forgetKey?
    let required := !l.inFlow && l.indents.head? == some g.column
    let start : KeyStart := ⟨l.tokens.length, g.line, g.column, g.index, required⟩
    return { l with keyStarts := some start :: l.keyStarts.drop 1 }
  else some l

/-- Whether a key that started at a place cannot reach to a glyph: keys stay on
their line and within 1024 characters. -/
def isStale (start : KeyStart) (g : Glyph) : Bool :=
  decide (start.line < g.line) || decide (start.index + 1024 < g.index)

/-- Forgets the keys that cannot reach to a glyph. -/
def dropStale? (l : Lexer) (g : Glyph) : Option Lexer :=
  let stale (start : Option KeyStart) : Bool := start.any fun start => isStale start g
  if l.keyStarts.any fun start => stale start && start.any (·.required) then none
  else some { l with keyStarts := l.keyStarts.map fun start => if stale start then none else start }

/-- Opens a block collection at a column further right than the innermost one. -/
def indentTo (l : Lexer) (column position : Nat) (token : Token) : Lexer :=
  if l.inFlow || l.indents.head?.any (fun innermost => decide (column ≤ innermost)) then l
  else { l.insert position token with indents := column :: l.indents }

/-- Closes the block collections that a predicate on their columns selects. -/
def closeBlocks (l : Lexer) (closes : Nat → Bool) : Lexer :=
  if l.inFlow then l
  else
    let closed := l.indents.takeWhile closes
    { l with
      tokens := l.tokens ++ closed.map fun _ => .blockEnd
      indents := l.indents.drop closed.length }

/-- Opens brackets. -/
def openFlow? (l : Lexer) (g : Glyph) (token : Token) : Option Lexer := do
  let l ← l.noteKey? g
  return { l.push token with keyStarts := none :: l.keyStarts, keyAllowed := true }

/-- Closes brackets. -/
def closeFlow? (l : Lexer) (token : Token) : Option Lexer := do
  let l ← l.forgetKey?
  let l := if l.inFlow then { l with keyStarts := l.keyStarts.drop 1 } else l
  return { l.push token with keyAllowed := false }

/-- An entry of a block sequence. -/
def blockEntry? (l : Lexer) (g : Glyph) : Option Lexer :=
  if !l.inFlow && !l.keyAllowed then none
  else do
    let l ← (l.indentTo g.column l.tokens.length .blockSequenceStart).forgetKey?
    return (l.allowKey true).push .blockEntry

/-- A question mark in front of a key. -/
def explicitKey? (l : Lexer) (g : Glyph) : Option Lexer :=
  if !l.inFlow && !l.keyAllowed then none
  else do
    let l ← (l.indentTo g.column l.tokens.length .blockMappingStart).forgetKey?
    return (l.allowKey !l.inFlow).push .key

/-- A colon in front of a value. -/
def colon? (l : Lexer) (g : Glyph) : Option Lexer :=
  match l.keyStart? with
  | some start =>
    let l := (l.insert start.position .key).indentTo start.column start.position .blockMappingStart
    some { l.push .value with keyStarts := none :: l.keyStarts.drop 1, keyAllowed := false }
  | none =>
    if !l.inFlow && !l.keyAllowed then none
    else
      let l := l.indentTo g.column l.tokens.length .blockMappingStart
      some ((l.allowKey !l.inFlow).push .value)

/-! ## Names and tags -/

/-- Characters of tags; commas and brackets only where they cannot end the tag. -/
def isTagChar (verbatim : Bool) (c : Char) : Bool :=
  isWordChar c || ";/?:@&=+$.%!~*'()".toList.contains c || (verbatim && ",[]".toList.contains c)

/-- Splits off the characters of a tag. A percent sign takes two digits. -/
def takeTagText? (verbatim : Bool) (s : List Glyph) : Option (List Char × List Glyph) :=
  let (text, rest) := takeClass (isTagChar verbatim) s
  let escaped (i : Nat) : Bool :=
    text[i]? != some '%' || ((text.drop (i + 1)).take 2).length == 2 &&
      ((text.drop (i + 1)).take 2).all fun c => (Text.hexDigit? c).isSome
  if (List.range text.length).all escaped then some (text, rest) else none

/-- Splits off a tag, before its sign: a handle and what follows it. -/
def takeTag? (inFlow : Bool) (s : List Glyph) : Option (Token × List Glyph) := do
  let (token, rest) ←
    if nextIs '<' (s.drop 1) then do
      let (text, rest) ← takeTagText? true (s.drop 2)
      guard (!text.isEmpty && nextIs '>' rest)
      pure (Token.tag "" (String.ofList text), rest.drop 1)
    else do
      let (name, after) := takeClass isWordChar (s.drop 1)
      if nextIs '!' after then
        let (text, rest) ← takeTagText? false (after.drop 1)
        guard (!text.isEmpty)
        pure (.tag (String.ofList ('!' :: name ++ ['!'])) (String.ofList text), rest)
      else
        let (text, rest) ← takeTagText? false (s.drop 1)
        pure (if text.isEmpty then .tag "" "!" else .tag "!" (String.ofList text), rest)
  guard (atGap rest || (inFlow && nextIs ',' rest))
  return (token, rest)

/-- Splits off the name of an anchor, after its sign. -/
def takeName? (s : List Glyph) : Option (String × List Glyph) := do
  let (name, rest) := takeClass isWordChar s
  guard (!name.isEmpty && (atGap rest || next (fun c => "?:,]\x7d%@\x60".toList.contains c) rest))
  return (String.ofList name, rest)

/-! ## Directives -/

/-- A number of at most nine digits. -/
def takeNumber? (s : List Glyph) : Option (Nat × List Glyph) := do
  let (digits, rest) := takeClass Char.isDigit s
  guard (!digits.isEmpty && decide (digits.length ≤ 9))
  let n ← Text.digitsIn? 10 digits
  return (n, rest)

/-- The version of a directive. -/
def takeVersion? (s : List Glyph) : Option (Token × List Glyph) := do
  let (major, s) ← takeNumber? (dropSpaces s)
  guard (nextIs '.' s)
  let (minor, s) ← takeNumber? (s.drop 1)
  return (.version major minor, s)

/-- The handle and the text of a directive for tags. -/
def takeShorthand? (s : List Glyph) : Option (Token × List Glyph) := do
  let s := dropSpaces s
  guard (nextIs '!' s)
  let (name, after) := takeClass isWordChar (s.drop 1)
  guard (name.isEmpty || nextIs '!' after)
  let handle := if nextIs '!' after then '!' :: name ++ ['!'] else ['!']
  let s := if nextIs '!' after then after.drop 1 else after
  guard (next isSpace s)
  let (lead, s) ← takeTagText? true (dropSpaces s)
  guard (!lead.isEmpty && atGap s)
  return (.tagShorthand (String.ofList handle) (String.ofList lead), s)

/-- Splits off a directive, after its sign. -/
def takeDirective? (s : List Glyph) : Option (Token × List Glyph) := do
  let (name, s) := takeClass isWordChar s
  guard (atGap s)
  let (token, s) ←
    if name = "YAML".toList then takeVersion? s
    else if name = "TAG".toList then takeShorthand? s
    else none
  let s := dropComment (dropSpaces s)
  guard (atLineEnd s)
  return (token, s.drop 1)

/-! ## All tokens -/

/-- Drops what does not count in front of a token: spaces, comments and line
ends. Tabs only count where a key may start. -/
def dropBlank (l : Lexer) : List Glyph → Lexer × List Glyph
  | [] => (l, [])
  | g :: rest =>
    if g.char = ' ' ∨ (g.char = '\t' ∧ (l.inFlow ∨ !l.keyAllowed)) then l.dropBlank rest
    else if g.char = '#' then skipComment rest
    else if isBreak g.char then (if l.inFlow then l else l.allowKey true).dropBlank rest
    else (l, g :: rest)
where
  /-- Drops the rest of a comment and what does not count after it. -/
  skipComment : List Glyph → Lexer × List Glyph
    | [] => (l, [])
    | g :: rest =>
      if isBreak g.char then (if l.inFlow then l else l.allowKey true).dropBlank rest
      else skipComment rest

/-- Whether a plain scalar can start here. -/
def startsPlain (inFlow : Bool) (g : Glyph) (rest : List Glyph) : Bool :=
  let c := g.char
  !(isGap c || "-?:,[]\x7b\x7d#&*!|>'\"%@\x60".toList.contains c) ||
    (c == '-' && !next isSpace rest) ||
    (!inFlow && (c == '?' || c == ':') && !atGap rest)

/-- Adds a scalar that may be a key. -/
def scalar (l : Lexer) (text : List Char) (style : ScalarStyle) : Lexer :=
  (l.allowKey false).push (.scalar (String.ofList text) style)

/-- Reads the marker of a document or a directive, before which all blocks close. -/
def boundary? (l : Lexer) (token : Token) : Option Lexer := do
  let l ← (l.closeBlocks fun _ => true).forgetKey?
  return (l.allowKey false).push token

/-- Reads a scalar. -/
def scalar? (l : Lexer) (g : Glyph) (rest : List Glyph) : Option (Lexer × List Glyph) :=
  let c := g.char
  if (c = '|' ∨ c = '>') ∧ !l.inFlow then do
    let l ← l.forgetKey?
    let (text, rest) ← takeBlock? (c == '|') l.indents.head? rest
    let style := if c = '|' then ScalarStyle.literal else .folded
    return ((l.allowKey true).push (.scalar (String.ofList text) style), rest)
  else if c = '\x27' ∨ c = '"' then do
    let l ← l.noteKey? g
    let (text, rest) ← takeQuoted? c rest
    return (l.scalar text .quoted, rest)
  else if startsPlain l.inFlow g rest then do
    let l ← l.noteKey? g
    let indent := match l.indents.head? with
      | none => 0
      | some column => column + 1
    let plain ← takePlain? l.inFlow indent (g :: rest)
    let l := l.scalar plain.text .plain
    return (if plain.lineEnded then l.allowKey true else l, plain.rest)
  else none

/-- Reads the token that starts at a glyph. -/
def token? (l : Lexer) (g : Glyph) (rest : List Glyph) : Option (Lexer × List Glyph) :=
  let c := g.char
  let s := g :: rest
  if g.column = 0 ∧ c = '%' then do
    let (token, rest) ← takeDirective? rest
    return (← l.boundary? token, rest)
  else if atMark '-' s then (l.boundary? .documentStart).map fun l => (l, s.drop 3)
  else if atMark '.' s then (l.boundary? .documentEnd).map fun l => (l, s.drop 3)
  else if c = '[' then (l.openFlow? g .flowSequenceStart).map fun l => (l, rest)
  else if c = '\x7b' then (l.openFlow? g .flowMappingStart).map fun l => (l, rest)
  else if c = ']' then (l.closeFlow? .flowSequenceEnd).map fun l => (l, rest)
  else if c = '\x7d' then (l.closeFlow? .flowMappingEnd).map fun l => (l, rest)
  else if c = ',' then
    l.forgetKey?.map fun l => ((l.allowKey true).push .flowEntry, rest)
  else if c = '-' ∧ atGap rest then (l.blockEntry? g).map fun l => (l, rest)
  else if c = '?' ∧ (l.inFlow ∨ atGap rest) then (l.explicitKey? g).map fun l => (l, rest)
  else if c = ':' ∧ (l.inFlow ∨ atGap rest) then (l.colon? g).map fun l => (l, rest)
  else if c = '*' ∨ c = '&' then do
    let l ← l.noteKey? g
    let (name, rest) ← takeName? rest
    return ((l.allowKey false).push (if c = '*' then .reference name else .anchor name), rest)
  else if c = '!' then do
    let l ← l.noteKey? g
    let (token, rest) ← takeTag? l.inFlow s
    return ((l.allowKey false).push token, rest)
  else l.scalar? g rest

/-- The tokens of a text; `fuel` bounds their number. -/
def run? : Nat → Lexer → List Glyph → Option (List Token)
  | 0, _, _ => none
  | fuel + 1, l, s =>
    match l.dropBlank s with
    | (l, []) => ((l.closeBlocks fun _ => true).forgetKey?).map (·.tokens)
    | (l, g :: rest) => do
      let l ← l.dropStale? g
      let l := l.closeBlocks fun column => decide (g.column < column)
      let (l, rest) ← l.token? g rest
      run? fuel l rest

end Lexer

/-- The tokens of a text. -/
def tokens? (text : String) : Option (List Token) := do
  let s ← glyphs? text
  Lexer.run? (s.length + 1) .start s

end PageHost.Yaml
