import PageHost.Text.Blank
import PageHost.Url.Percent
/-!
# Pairs of a query

A query holds names and values, `name=value`, joined by ampersands. A plus sign
stands for a blank, percent-encoded bytes are decoded, and bytes that are not
UTF-8 become U+FFFD. An empty piece is no pair; a piece without an equals sign
is a name with an empty value.
-/

namespace PageHost.Url

/-- One name or value. -/
def decodeComponent (s : List Char) : String :=
  Text.decodeUtf8 (percentDecode (Text.utf8Bytes (s.map fun c => if c = '+' then ' ' else c)))

/-- The pair in one piece. -/
def queryPair (piece : List Char) : String × String :=
  (decodeComponent (piece.takeWhile (· != '=')), decodeComponent ((piece.dropWhile (· != '=')).drop 1))

/-- The pairs of a query. -/
def queryPairs (query : String) : List (String × String) :=
  ((Text.splitAll '&' query.toList).filter fun piece => !piece.isEmpty).map queryPair

end PageHost.Url
