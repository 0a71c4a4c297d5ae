namespace Tether

/-! # White space

The characters that Unicode counts as white space, and text without those at its ends.
-/

namespace White

/-- A character that is white space. -/
def isWhite (c : Char) : Bool :=
  ('\t' ≤ c && c ≤ '\r') || c = ' ' || c = '\u0085' || c = '\u00a0' || c = '\u1680' ||
    ('\u2000' ≤ c && c ≤ '\u200a') || c = '\u2028' || c = '\u2029' || c = '\u202f' || c = '\u205f' || c = '\u3000'

/-- The text without the white space at its ends. -/
def trim (cs : List Char) : List Char := ((cs.dropWhile isWhite).reverse.dropWhile isWhite).reverse

end White

end Tether
