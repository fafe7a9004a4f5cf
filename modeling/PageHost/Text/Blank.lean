/-!
# Blanks

A blank is a character with the Unicode property `White_Space`. The module
trims blanks from the ends of a text and splits a text into the words between
blanks. Locale rules and line breaking are not covered.
-/

namespace PageHost.Text

/-- Characters with the property `White_Space`. -/
def isBlank (c : Char) : Bool :=
  let n := c.toNat
  (9 ≤ n && n ≤ 13) || n == 32 || n == 0x85 || n == 0xA0 || n == 0x1680 ||
    (0x2000 ≤ n && n ≤ 0x200A) || n == 0x2028 || n == 0x2029 || n == 0x202F || n == 0x205F ||
    n == 0x3000

/-- Drops the characters of a class from both ends. -/
def trimBoth (p : Char → Bool) (s : List Char) : List Char :=
  ((s.dropWhile p).reverse.dropWhile p).reverse

/-- Drops the blanks at both ends. -/
def trimBlanks (s : String) : String := String.ofList (trimBoth isBlank s.toList)

/-- The non-empty runs of characters outside a class, in order. -/
def runsOutside (p : Char → Bool) : List Char → List (List Char)
  | [] => []
  | c :: rest =>
    if p c then runsOutside p rest
    else
      match rest, runsOutside p rest with
      | d :: _, run :: runs => if p d then [c] :: run :: runs else (c :: run) :: runs
      | _, runs => [c] :: runs

/-- The words between blanks. -/
def words (s : String) : List String := (runsOutside isBlank s.toList).map String.ofList

/-- The pieces between the occurrences of a separator; one piece more than separators. -/
def splitAll (separator : Char) : List Char → List (List Char)
  | [] => [[]]
  | c :: rest =>
    if c = separator then [] :: splitAll separator rest
    else
      match splitAll separator rest with
      | [] => [[c]]
      | piece :: pieces => (c :: piece) :: pieces

/-- Whether a text starts with the given characters; what follows them. -/
def after? : List Char → List Char → Option (List Char)
  | [], s => some s
  | _ :: _, [] => none
  | c :: lead, d :: s => if c = d then after? lead s else none

/-- ASCII letters in lower case, all else unchanged. -/
def lowerAscii (s : String) : String := String.ofList (s.toList.map Char.toLower)

example : words "\u00a0a b\u2003c " = ["a", "b", "c"] := by decide +kernel
example : trimBlanks "\u2028 x y\u0085" = "x y" := by decide +kernel

end PageHost.Text
