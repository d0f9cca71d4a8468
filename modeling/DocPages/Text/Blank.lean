import DocPages.Text.Utf8

/-!
# Blanks

A blank is a character with the Unicode property White_Space.  Trimming removes blanks from both
ends of a text and nothing else: a malformed byte is never a blank.
-/

namespace DocPages

/-- The code points with the property White_Space. -/
def isBlank (c : Nat) : Bool :=
  (0x09 ≤ c && c ≤ 0x0D) || c == 0x20 || c == 0x85 || c == 0xA0 || c == 0x1680 ||
    (0x2000 ≤ c && c ≤ 0x200A) || c == 0x2028 || c == 0x2029 || c == 0x202F || c == 0x205F ||
    c == 0x3000

/-- A rune that is a blank. -/
def Rune.isBlank (r : Rune) : Bool := DocPages.isBlank r.code

/-- The text without blanks at either end. -/
def trim (s : Bytes) : Bytes :=
  unrunes ((((runes s).dropWhile Rune.isBlank).reverse.dropWhile Rune.isBlank).reverse)

end DocPages
