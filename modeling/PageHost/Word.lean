/-!
# Words

The limits of whole numbers that travel in machine words.
-/

namespace PageHost

/-- The number of words of 64 bits. -/
abbrev wordLimit : Nat := 18446744073709551616

/-- The number of words of 63 bits; the least signed word is its negation. -/
abbrev signLimit : Nat := 9223372036854775808

end PageHost
