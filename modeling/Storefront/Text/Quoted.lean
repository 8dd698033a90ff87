import Storefront.Text.Printable
/-!
# Quoted text in messages

A text is quoted with single quotes, or with double quotes when it holds single quotes and no
double ones. Backslashes, the chosen quote and characters that do not show are escaped.
-/

namespace Storefront.Text

/-- A number in lower-case hexadecimal digits, padded to a width. -/
def hexadecimal (width n : Nat) : String :=
  let digits := Nat.toDigits 16 n
  String.ofList (List.replicate (width - digits.length) '0' ++ digits)

/-- One character inside quotes. -/
def escapeChar (quote c : Char) : String :=
  if c = quote || c = '\\' then "\\" ++ c.toString
  else if c = '\n' then "\\n"
  else if c = '\r' then "\\r"
  else if c = '\t' then "\\t"
  else if isPrintable c then c.toString
  else if c.toNat < 0x100 then "\\x" ++ hexadecimal 2 c.toNat
  else if c.toNat < 0x10000 then "\\u" ++ hexadecimal 4 c.toNat
  else "\\U" ++ hexadecimal 8 c.toNat

/-- A text with quotes around it. -/
def quoted (text : String) : String :=
  let quote := if text.contains '\'' && !text.contains '"' then '"' else '\''
  quote.toString ++ String.join (text.toList.map (escapeChar quote)) ++ quote.toString

end Storefront.Text
