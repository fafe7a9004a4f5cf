import PageHost.Word
import PageHost.Yaml.Token
/-!
# Nodes

The document of a YAML text: scalars, sequences and mappings, with every
reference replaced by the node that it names. A text holds at most one document;
one without tokens holds none. A missing node is an empty plain scalar.
-/

namespace PageHost.Yaml

/-- A node. -/
inductive Node where
  | scalar (text : String) (style : ScalarStyle) (tag : Option String)
  | sequence (items : List Node)
  | mapping (pairs : List (Node × Node))
  /-- A reference to a collection from within itself. -/
  | cycle

/-- The node of a place where none is written. -/
def Node.missing : Node := .scalar "" .plain none

/-- The tokens that are left, and the nodes that anchors name. -/
structure NodeReader where
  tokens : List Token
  /-- The latest first. -/
  anchors : List (String × Node)
  /-- What the handles of tags stand for. -/
  handles : List (String × String)

namespace NodeReader

/-- The next token. -/
def next? (r : NodeReader) : Option Token := r.tokens.head?

/-- Whether the next token is one of the given ones. -/
def nextIn (r : NodeReader) (tokens : List Token) : Bool := r.next?.any tokens.contains

/-- After the next token. -/
def skip (r : NodeReader) : NodeReader := { r with tokens := r.tokens.drop 1 }

/-- Notes what an anchor names. -/
def name (r : NodeReader) (anchor : Option String) (node : Node) : NodeReader :=
  match anchor with
  | none => r
  | some anchor => { r with anchors := (anchor, node) :: r.anchors }

/-- The tag that a handle and a suffix name. -/
def tag? (r : NodeReader) (handle suffix : String) : Option String :=
  if handle = "" then some suffix else (r.handles.lookup handle).map (· ++ suffix)

/-- What stands in front of a node: an anchor and a tag, in any order. -/
structure Properties where
  anchor : Option String
  tag : Option String

/-- Reads what stands in front of a node. -/
def properties? (r : NodeReader) : Option (Properties × NodeReader) :=
  match r.tokens with
  | .anchor a :: .tag h s :: rest =>
    (r.tag? h s).map fun tag => (⟨some a, some tag⟩, { r with tokens := rest })
  | .tag h s :: .anchor a :: rest =>
    (r.tag? h s).map fun tag => (⟨some a, some tag⟩, { r with tokens := rest })
  | .anchor a :: rest => some (⟨some a, none⟩, { r with tokens := rest })
  | .tag h s :: rest => (r.tag? h s).map fun tag => (⟨none, some tag⟩, { r with tokens := rest })
  | _ => some (⟨none, none⟩, r)

/-- Where a node stands. -/
inductive Place where
  /-- In the block layout. -/
  | block
  /-- In a block mapping, where the entries of a sequence need no indentation. -/
  | blockValue
  /-- In brackets. -/
  | flow
deriving DecidableEq

/-- What is left to do for a collection. -/
inductive Frame where
  | blockSequence
  /-- The entries of a sequence that is not indented. -/
  | looseSequence
  | blockMapping
  | flowSequence (first : Bool)
  | flowMapping (first : Bool)

mutual

/-- Reads a node; `fuel` bounds the nodes and entries. -/
def node? : Nat → Place → NodeReader → Option (Node × NodeReader)
  | 0, _, _ => none
  | fuel + 1, place, r =>
    match r.tokens with
    | .reference anchor :: _ => (r.anchors.lookup anchor).map fun node => (node, r.skip)
    | _ => do
      let (properties, r) ← r.properties?
      let collection (frame : Frame) (r : NodeReader) : Option (Node × NodeReader) := do
        let (node, r) ← collection? fuel frame (r.name properties.anchor .cycle)
        return (node, r.name properties.anchor node)
      match r.next? with
      | some (.scalar text style) =>
        let node := Node.scalar text style properties.tag
        return (node, r.skip.name properties.anchor node)
      | some .flowSequenceStart => collection (.flowSequence true) r.skip
      | some .flowMappingStart => collection (.flowMapping true) r.skip
      | next =>
        if place = .blockValue ∧ next = some .blockEntry then collection .looseSequence r
        else if place ≠ .flow ∧ next = some .blockSequenceStart then
          collection .blockSequence r.skip
        else if place ≠ .flow ∧ next = some .blockMappingStart then collection .blockMapping r.skip
        else if properties.anchor.isSome || properties.tag.isSome then
          let node := Node.scalar "" .plain properties.tag
          return (node, r.name properties.anchor node)
        else none

/-- Reads a node, or a missing one before any of the given tokens. -/
def nodeUnless? : Nat → Place → List Token → NodeReader → Option (Node × NodeReader)
  | 0, _, _, _ => none
  | fuel + 1, place, stops, r =>
    if r.nextIn stops then some (.missing, r) else node? fuel place r

/-- Reads the value of a key, if a colon is next. -/
def value? : Nat → Place → List Token → NodeReader → Option (Node × NodeReader)
  | 0, _, _, _ => none
  | fuel + 1, place, stops, r =>
    if r.nextIn [.value] then nodeUnless? fuel place stops r.skip else some (.missing, r)

/-- Reads what is left of a collection. -/
def collection? : Nat → Frame → NodeReader → Option (Node × NodeReader)
  | 0, _, _ => none
  | fuel + 1, .blockSequence, r => do
    let (items, r) ← blockItems? fuel [.blockEntry, .blockEnd] r
    if r.nextIn [.blockEnd] then return (.sequence items, r.skip) else none
  | fuel + 1, .looseSequence, r => do
    let (items, r) ← blockItems? fuel [.blockEntry, .key, .value, .blockEnd] r
    return (.sequence items, r)
  | fuel + 1, .blockMapping, r => do
    let (pairs, r) ← blockPairs? fuel r
    return (.mapping pairs, r)
  | fuel + 1, .flowSequence first, r => do
    let (items, r) ← flowItems? fuel first r
    return (.sequence items, r)
  | fuel + 1, .flowMapping first, r => do
    let (pairs, r) ← flowPairs? fuel first r
    return (.mapping pairs, r)

/-- Reads the entries of a block sequence. -/
def blockItems? : Nat → List Token → NodeReader → Option (List Node × NodeReader)
  | 0, _, _ => none
  | fuel + 1, stops, r =>
    if r.nextIn [.blockEntry] then do
      let (item, r) ← nodeUnless? fuel .block stops r.skip
      let (items, r) ← blockItems? fuel stops r
      return (item :: items, r)
    else some ([], r)

/-- Reads the pairs of a block mapping and its end. -/
def blockPairs? : Nat → NodeReader → Option (List (Node × Node) × NodeReader)
  | 0, _ => none
  | fuel + 1, r =>
    let stops := [Token.key, .value, .blockEnd]
    if r.nextIn [.key] then do
      let (key, r) ← nodeUnless? fuel .blockValue stops r.skip
      let (value, r) ← value? fuel .blockValue stops r
      let (pairs, r) ← blockPairs? fuel r
      return ((key, value) :: pairs, r)
    else if r.nextIn [.blockEnd] then some ([], r.skip)
    else none

/-- Reads the items of a sequence in brackets and its end. -/
def flowItems? : Nat → Bool → NodeReader → Option (List Node × NodeReader)
  | 0, _, _ => none
  | fuel + 1, first, r =>
    if r.nextIn [.flowSequenceEnd] then some ([], r.skip)
    else do
      let r ← if first then some r else if r.nextIn [.flowEntry] then some r.skip else none
      if r.nextIn [.flowSequenceEnd] then return ([], r.skip)
      let (item, r) ← flowItem? fuel r
      let (items, r) ← flowItems? fuel false r
      return (item :: items, r)

/-- Reads an item of a sequence in brackets, which may be a lone pair. -/
def flowItem? : Nat → NodeReader → Option (Node × NodeReader)
  | 0, _ => none
  | fuel + 1, r =>
    if r.nextIn [.key] then do
      let (key, r) ← nodeUnless? fuel .flow [.value, .flowEntry, .flowSequenceEnd] r.skip
      let (value, r) ← value? fuel .flow [.flowEntry, .flowSequenceEnd] r
      return (.mapping [(key, value)], r)
    else node? fuel .flow r

/-- Reads the pairs of a mapping in brackets and its end. -/
def flowPairs? : Nat → Bool → NodeReader → Option (List (Node × Node) × NodeReader)
  | 0, _, _ => none
  | fuel + 1, first, r =>
    if r.nextIn [.flowMappingEnd] then some ([], r.skip)
    else do
      let r ← if first then some r else if r.nextIn [.flowEntry] then some r.skip else none
      if r.nextIn [.flowMappingEnd] then return ([], r.skip)
      let (pair, r) ← flowPair? fuel r
      let (pairs, r) ← flowPairs? fuel false r
      return (pair :: pairs, r)

/-- Reads a pair of a mapping in brackets, which may be a key alone. -/
def flowPair? : Nat → NodeReader → Option ((Node × Node) × NodeReader)
  | 0, _ => none
  | fuel + 1, r =>
    if r.nextIn [.key] then do
      let (key, r) ← nodeUnless? fuel .flow [.value, .flowEntry, .flowMappingEnd] r.skip
      let (value, r) ← value? fuel .flow [.flowEntry, .flowMappingEnd] r
      return ((key, value), r)
    else do
      let (key, r) ← node? fuel .flow r
      return ((key, .missing), r)

end

/-! ## Documents -/

/-- Reads the directives in front of a document; what is noted in `seen` may not
come again. -/
def directives? (seenVersion : Bool) (seen : List String) :
    NodeReader → List Token → Option NodeReader
  | r, .version major minor :: rest =>
    if seenVersion ∨ major ≠ 1 ∨ (minor ≠ 1 ∧ minor ≠ 2) then none
    else directives? true seen r rest
  | r, .tagShorthand handle lead :: rest =>
    if handle ∈ seen then none
    else
      directives? seenVersion (handle :: seen) { r with handles := (handle, lead) :: r.handles } rest
  | r, rest => some { r with tokens := rest }

/-- Whether a token is a directive. -/
def isDirective : Token → Bool
  | .version _ _ => true
  | .tagShorthand _ _ => true
  | _ => false

/-- The document of tokens: none if they are malformed, and `some none` if there
is no document. -/
def document? (tokens : List Token) : Option (Option Node) := do
  if tokens.isEmpty then return none
  let fuel := 8 * (tokens.length + 1)
  let start : NodeReader := ⟨[], [], [("!", "!"), ("!!", "tag:yaml.org,2002:")]⟩
  let explicit := tokens.head?.any fun t => isDirective t || t == .documentStart
  let r ← directives? false [] start tokens
  let (node, r) ←
    if explicit then
      if r.nextIn [.documentStart] then
        let r := r.skip
        if r.tokens.isEmpty || r.tokens.head?.any isDirective ||
            r.nextIn [.documentStart, .documentEnd] then
          some (.missing, r)
        else node? fuel .block r
      else none
    else node? fuel .block r
  guard (r.tokens.all (· == .documentEnd))
  return some node

end NodeReader

/-- The document of a text: none if the text is malformed, and `some none` if it
has no document. -/
def document? (text : String) : Option (Option Node) := (tokens? text).bind NodeReader.document?

/-! ## What scalars mean -/

namespace Node

/-- Whether a scalar is read by what it looks like: a plain one, and a literal
block with the tag of the type. -/
def isPlainly (style : ScalarStyle) (tag : Option String) (type : String) : Bool :=
  style == .plain || (style == .literal && tag == some ("tag:yaml.org,2002:" ++ type))

/-- The text of any scalar. -/
def text? : Node → Option String
  | .scalar text _ _ => some text
  | _ => none

/-- A truth value. -/
def bool? : Node → Option Bool
  | .scalar text style tag =>
    if !isPlainly style tag "bool" then none
    else if text = "true" ∨ text = "True" ∨ text = "TRUE" then some true
    else if text = "false" ∨ text = "False" ∨ text = "FALSE" then some false
    else none
  | _ => none

/-- The number that digits write in a base, from 0 to 2^64 - 1. -/
def wordIn? (base : Nat) (digits : List Char) : Option Nat :=
  if digits.isEmpty then none else (Text.digitsIn? base digits).filter fun n => decide (n < wordLimit)

/-- The number that an unsigned text writes: decimal without leading zeros, or
in the base that a letter after a zero says. -/
def unsigned? (s : List Char) : Option Nat :=
  match s with
  | '0' :: 'x' :: digits => wordIn? 16 digits
  | '0' :: 'o' :: digits => wordIn? 8 digits
  | '0' :: 'b' :: digits => wordIn? 2 digits
  | ['0'] => some 0
  | '0' :: _ => none
  | s => wordIn? 10 s

/-- A whole number from 0 to 2^64 - 1, which may have a plus sign. -/
def word? : Node → Option Nat
  | .scalar text style tag =>
    if !isPlainly style tag "int" then none
    else
      match text.toList with
      | '+' :: s => unsigned? s
      | s => unsigned? s
  | _ => none

end Node

end PageHost.Yaml
