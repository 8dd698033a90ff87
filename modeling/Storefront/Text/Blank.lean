/-!
# Blank characters

White space as Unicode has it, together with the four information separators, and the narrower
class without them. Numbers are trimmed by the narrower class, other text by the wider.
-/

namespace Storefront.Text

/-- The characters with the white-space property. -/
def isSpace (c : Char) : Bool :=
  let n := c.toNat
  (0x09 ≤ n && n ≤ 0x0D) || n == 0x20 || n == 0x85 || n == 0xA0 || n == 0x1680 ||
    (0x2000 ≤ n && n ≤ 0x200A) || n == 0x2028 || n == 0x2029 || n == 0x202F || n == 0x205F ||
    n == 0x3000

/-- White space and the information separators. -/
def isBlank (c : Char) : Bool := isSpace c || (0x1C ≤ c.toNat && c.toNat ≤ 0x1F)

/-- Drop the characters of a class from both ends. -/
def trimBy (skipped : Char → Bool) (cs : List Char) : List Char :=
  ((cs.dropWhile skipped).reverse.dropWhile skipped).reverse

/-- A text without blanks at its ends. -/
def trim (text : String) : String := String.ofList (trimBy isBlank text.toList)

end Storefront.Text
