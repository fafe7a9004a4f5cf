import PageHost.Json.Numeral
import PageHost.Text.Digits
/-!
# Reading JSON text

The text is cut into tokens and a machine over the stack of open containers
builds the value. The grammar is strict: one value, nothing after it, no
comments, no trailing commas, no raw control characters and no lone surrogates
in strings, and at most 127 containers inside one another.
-/

namespace PageHost.Json

/-- A lexical unit. -/
inductive Token where
  | openArray
  | closeArray
  | openObject
  | closeObject
  | comma
  | colon
  /-- A literal, a number or a string. -/
  | scalar (value : Json)

/-- Where the scanner stands inside a string. -/
inductive StringMode where
  | plain
  /-- After a backslash. -/
  | escape
  /-- In a numeric escape, with the digits still to come and the value so far. -/
  | hex (left : Nat) (value : Nat)

/-- The character that a one-letter escape stands for. -/
def escaped? : Char → Option Char
  | '"' => some '"'
  | '\\' => some '\\'
  | '/' => some '/'
  | 'b' => some '\x08'
  | 'f' => some '\x0c'
  | 'n' => some '\n'
  | 'r' => some '\r'
  | 't' => some '\t'
  | _ => none

/-- Adds a code unit to a string: a character, the first half of a pair, or the
second half of the pair begun before. -/
def addUnit (unit : Nat) : Option Nat → List Char → Option (Option Nat × List Char)
  | some high, acc =>
    if 0xDC00 ≤ unit ∧ unit ≤ 0xDFFF then
      some (none, Char.ofNat (0x10000 + (high - 0xD800) * 1024 + (unit - 0xDC00)) :: acc)
    else none
  | none, acc =>
    if 0xD800 ≤ unit ∧ unit ≤ 0xDBFF then some (some unit, acc)
    else if 0xDC00 ≤ unit ∧ unit ≤ 0xDFFF then none
    else some (none, Char.ofNat unit :: acc)

/-- Reads a string after its opening quote; the characters read so far stand in
reverse, and the first half of a surrogate pair waits for the second. -/
def scanString : StringMode → Option Nat → List Char → List Char → Option (String × List Char)
  | _, _, _, [] => none
  | .plain, high, acc, c :: rest =>
    if c = '\\' then scanString .escape high acc rest
    else if high.isSome then none
    else if c = '"' then some (String.ofList acc.reverse, rest)
    else if c.toNat < 0x20 then none
    else scanString .plain none (c :: acc) rest
  | .escape, high, acc, c :: rest =>
    if c = 'u' then scanString (.hex 4 0) high acc rest
    else if high.isSome then none
    else
      match escaped? c with
      | none => none
      | some d => scanString .plain none (d :: acc) rest
  | .hex left value, high, acc, c :: rest =>
    match Text.hexDigit? c with
    | none => none
    | some d =>
      if left ≤ 1 then
        match addUnit (value * 16 + d) high acc with
        | none => none
        | some (high, acc) => scanString .plain high acc rest
      else scanString (.hex (left - 1) (value * 16 + d)) high acc rest

/-- The token at the front of a text that starts with a given character. -/
def scanToken (c : Char) (rest : List Char) : Option (Token × List Char) :=
  match c, rest with
  | '[', _ => some (.openArray, rest)
  | ']', _ => some (.closeArray, rest)
  | '\x7b', _ => some (.openObject, rest)
  | '\x7d', _ => some (.closeObject, rest)
  | ',', _ => some (.comma, rest)
  | ':', _ => some (.colon, rest)
  | '"', _ => (scanString .plain none [] rest).map fun (s, rest) => (.scalar (.string s), rest)
  | 'n', 'u' :: 'l' :: 'l' :: rest => some (.scalar .null, rest)
  | 't', 'r' :: 'u' :: 'e' :: rest => some (.scalar (.bool true), rest)
  | 'f', 'a' :: 'l' :: 's' :: 'e' :: rest => some (.scalar (.bool false), rest)
  | _, _ => do
    let (numeral, rest) ← Numeral.scan? (c :: rest)
    let value ← numeral.value?
    return (.scalar (.number value), rest)

/-- The four characters that may stand between tokens. -/
def isSpace (c : Char) : Bool := c == ' ' || c == '\n' || c == '\t' || c == '\r'

/-- Cuts a text into tokens, with at most `fuel` steps of one character or more. -/
def tokensWithin : Nat → List Char → Option (List Token)
  | _, [] => some []
  | 0, _ :: _ => none
  | fuel + 1, c :: rest =>
    if isSpace c then tokensWithin fuel rest
    else do
      let (token, rest) ← scanToken c rest
      let tokens ← tokensWithin fuel rest
      return token :: tokens

/-- The tokens of a text. -/
def tokens? (s : List Char) : Option (List Token) := tokensWithin s.length s

/-- A container whose end has not come, its contents in reverse. -/
inductive Unclosed where
  | array (items : List Json)
  | object (members : List (String × Json))
  /-- An object that waits for the value of a member. -/
  | member (name : String) (members : List (String × Json))

/-- What the machine accepts next. -/
inductive Expect where
  | value
  | valueOrClose
  | nameOrClose
  | name
  | colon (name : String)
  | commaOrClose
  /-- The whole value is read. -/
  | finished (value : Json)

/-- Hands a complete value to the innermost container. -/
def complete (value : Json) : List Unclosed → Option (List Unclosed × Expect)
  | [] => some ([], .finished value)
  | .array items :: rest => some (.array (value :: items) :: rest, .commaOrClose)
  | .member name members :: rest =>
    some (.object ((name, value) :: members) :: rest, .commaOrClose)
  | .object _ :: _ => none

/-- The greatest number of containers inside one another. -/
def deepest : Nat := 127

/-- Opens a container unless it would lie too deep. -/
def push (container : Unclosed) (expect : Expect) (stack : List Unclosed) :
    Option (List Unclosed × Expect) :=
  if stack.length < deepest then some (container :: stack, expect) else none

/-- One step of the machine. -/
def step (token : Token) (stack : List Unclosed) : Expect → Option (List Unclosed × Expect)
  | .finished _ => none
  | .value => start token stack
  | .valueOrClose =>
    match token, stack with
    | .closeArray, .array items :: rest => complete (.array items.reverse) rest
    | _, _ => start token stack
  | .nameOrClose =>
    match token, stack with
    | .closeObject, .object members :: rest => complete (.object members.reverse) rest
    | .scalar (.string name), _ => some (stack, .colon name)
    | _, _ => none
  | .name =>
    match token with
    | .scalar (.string name) => some (stack, .colon name)
    | _ => none
  | .colon name =>
    match token, stack with
    | .colon, .object members :: rest => some (.member name members :: rest, .value)
    | _, _ => none
  | .commaOrClose =>
    match token, stack with
    | .comma, .array _ :: _ => some (stack, .value)
    | .comma, .object _ :: _ => some (stack, .name)
    | .closeArray, .array items :: rest => complete (.array items.reverse) rest
    | .closeObject, .object members :: rest => complete (.object members.reverse) rest
    | _, _ => none
where
  /-- A value begins. -/
  start (token : Token) (stack : List Unclosed) : Option (List Unclosed × Expect) :=
    match token with
    | .openArray => push (.array []) .valueOrClose stack
    | .openObject => push (.object []) .nameOrClose stack
    | .scalar value => complete value stack
    | _ => none

/-- Runs the machine over all tokens. -/
def run : List Token → List Unclosed → Expect → Option Json
  | [], _, .finished value => some value
  | [], _, _ => none
  | token :: rest, stack, expect =>
    match step token stack expect with
    | none => none
    | some (stack, expect) => run rest stack expect

/-- The value written in a text. -/
def parse? (s : String) : Option Json := do
  let tokens ← tokens? s.toList
  run tokens [] .value

end PageHost.Json
