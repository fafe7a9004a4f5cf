import PageHost.Decimal.Shortest
/-!
# Written forms of decimals

A `Layout` holds the decisions of one output format: which magnitudes are
written without an exponent and whether a whole number keeps a point. The
digits come from `Decimal.Shortest`; the layout never changes them.
-/

namespace PageHost

/-- How a format writes a decimal. -/
structure Layout where
  /-- Written without an exponent when the point lies above the first and not
  above the second bound; at every magnitude when there are no bounds. -/
  positional : Option (Int × Int)
  /-- A whole number is followed by a point and a zero. -/
  keepsPoint : Bool
  /-- The text for zero. -/
  zero : Bool → String
  /-- The text for an infinity of the given sign; none when the format has none. -/
  infinite : Bool → Option String
  /-- The text for not-a-number; none when the format has none. -/
  nan : Option String

namespace Layout

/-- Digits as characters. -/
def digitChars (digits : List Nat) : List Char := digits.map Nat.digitChar

/-- The decimal without an exponent. -/
def plain (layout : Layout) (d : Decimal) : List Char :=
  let digits := digitChars d.digits
  if d.point ≤ 0 then
    '0' :: '.' :: (List.replicate (-d.point).toNat '0' ++ digits)
  else
    let whole := d.point.toNat
    if digits.length ≤ whole then
      digits ++ List.replicate (whole - digits.length) '0' ++
        (if layout.keepsPoint then ['.', '0'] else [])
    else digits.take whole ++ '.' :: digits.drop whole

/-- The decimal with one digit before the point and an exponent. -/
def scientific (d : Decimal) : List Char :=
  let exponent := d.point - 1
  let tail := 'e' :: (toString exponent).toList
  match digitChars d.digits with
  | [] => tail
  | [c] => c :: tail
  | c :: rest => c :: '.' :: (rest ++ tail)

/-- The decimal in the form that the layout chooses. -/
def decimal (layout : Layout) (d : Decimal) : List Char :=
  match layout.positional with
  | none => layout.plain d
  | some (low, high) =>
    if low < d.point ∧ d.point ≤ high then layout.plain d else scientific d

/-- The text of a float; none where the format has no text for it. -/
def text? (layout : Layout) (x : Float) : Option String :=
  match FloatParts.ofFloat x with
  | .nan => layout.nan
  | .infinite negative => layout.infinite negative
  | .zero negative => some (layout.zero negative)
  | .finite negative magnitude =>
    let chars := layout.decimal magnitude.shortest
    some (String.ofList (if negative then '-' :: chars else chars))

end Layout

end PageHost
