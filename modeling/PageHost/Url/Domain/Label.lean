import PageHost.Url.Domain.Composition
import PageHost.Url.Domain.LabelTable
import PageHost.Url.Domain.Mapping
/-!
# Rules for labels

A label does not start with a mark. A joiner stands after a character that asks
for one, or between letters that join. Where a name has letters written from right
to left, each label has one direction, and its letters, numbers and ends go with
that direction.
-/

namespace PageHost.Url.Domain

/-- Marks. -/
def marks : List (Nat × Nat) := spans marksRows

/-- Letters that join with the letter after them. -/
def joinsLeft : List (Nat × Nat) := spans joinsLeftRows

/-- Letters that join with the letter before them. -/
def joinsRight : List (Nat × Nat) := spans joinsRightRows

/-- Characters through which letters join. -/
def transparent : List (Nat × Nat) := spans transparentRows

/-! ## Joiners -/

/-- The combining class of the signs that suppress a vowel. -/
def viramaClass : Nat := 9

/-- Whether joiners stand where they may, after the characters in `before`, the
last one first. -/
def joinersAllowed : List Nat → List Nat → Bool
  | _, [] => true
  | before, n :: rest =>
    let afterVirama := before.head?.any fun m => combiningClass m == viramaClass
    let joins :=
      ((before.dropWhile (within transparent)).head?.any (within joinsLeft)) &&
        ((rest.dropWhile (within transparent)).head?.any (within joinsRight))
    let allowed :=
      if n = 0x200C then afterVirama || joins else if n = 0x200D then afterVirama else true
    allowed && joinersAllowed (n :: before) rest

/-! ## Directions -/

/-- How a character goes with a direction. -/
inductive Direction where
  | leftToRight
  | rightToLeft
  | arabicNumber
  | number
  /-- The direction of what it stands on. -/
  | attached
  | neutral
deriving Repr, DecidableEq

/-- Letters written from right to left. -/
def rightToLeft : List (Nat × Nat) := spans rightToLeftRows

/-- Numbers that keep the direction of Arabic. -/
def arabicNumbers : List (Nat × Nat) := spans arabicNumbersRows

/-- Other numbers outside ASCII. -/
def otherNumbers : List (Nat × Nat) := spans numbersRows

/-- Marks that take the direction of what they stand on. -/
def attached : List (Nat × Nat) := spans attachedRows

/-- Characters outside ASCII without a direction. -/
def neutral : List (Nat × Nat) := spans neutralRows

/-- The direction of a character. -/
def direction (n : Nat) : Direction :=
  if n < 0x80 then
    let c := Char.ofNat n
    if c.isAlpha then .leftToRight else if c.isDigit then .number else .neutral
  else if within rightToLeft n then .rightToLeft
  else if within arabicNumbers n then .arabicNumber
  else if within otherNumbers n then .number
  else if within attached n then .attached
  else if within neutral n then .neutral
  else .leftToRight

/-- Whether a name with this label has letters or numbers written from right to left. -/
def hasRightToLeft (label : List Nat) : Bool :=
  label.any fun n => direction n == .rightToLeft || direction n == .arabicNumber

/-- Whether a label has one direction. -/
def hasOneDirection (label : List Nat) : Bool :=
  let directions := label.map direction
  let ending := (directions.reverse.dropWhile (· == .attached)).head?
  match directions.head? with
  | none => true
  | some .rightToLeft =>
    !directions.contains .leftToRight &&
      ending.any (fun d => d == .rightToLeft || d == .number || d == .arabicNumber) &&
      !(directions.contains .number && directions.contains .arabicNumber)
  | some .leftToRight =>
    !directions.contains .rightToLeft && !directions.contains .arabicNumber &&
      ending.any (fun d => d == .leftToRight || d == .number)
  | some _ => false

/-! ## Labels -/

/-- Whether a label follows the rules that do not depend on the other labels. -/
def isLabel (label : List Nat) : Bool :=
  !(label.head?.any (within marks)) && joinersAllowed [] label

/-- Whether a label is in the form to which preparing it would bring it. -/
def isPrepared (label : List Nat) : Bool := label.all isKept && composed label == label

end PageHost.Url.Domain
