import Storefront.Json.Reader
/-!
# Percent-encoded text

Bytes that are written as a percent sign and two hexadecimal digits are read as UTF-8. A percent
sign without two digits stands for itself, and bytes that are no UTF-8 become the replacement
character.
-/

namespace Storefront.Http.Percent

/-- How many continuation bytes a leading byte announces, the bits it contributes, and the range in
which the first continuation byte must lie. -/
def lead? (byte : Nat) : Option (Nat × Nat × Nat × Nat) :=
  if 0xC2 ≤ byte ∧ byte < 0xE0 then some (1, byte - 0xC0, 0x80, 0xBF)
  else if byte = 0xE0 then some (2, 0, 0xA0, 0xBF)
  else if byte = 0xED then some (2, 0xD, 0x80, 0x9F)
  else if 0xE1 ≤ byte ∧ byte < 0xF0 then some (2, byte - 0xE0, 0x80, 0xBF)
  else if byte = 0xF0 then some (3, 0, 0x90, 0xBF)
  else if 0xF1 ≤ byte ∧ byte < 0xF4 then some (3, byte - 0xF0, 0x80, 0xBF)
  else if byte = 0xF4 then some (3, 4, 0x80, 0x8F)
  else none

/-- The rest of a character whose leading byte is read: the character, or the replacement character
if the bytes break off, and the bytes after it. -/
def continued (value low high : Nat) : Nat → List Nat → Char × List Nat
  | 0, bytes => (Char.ofNat value, bytes)
  | _ + 1, [] => ('\uFFFD', [])
  | missing + 1, byte :: rest =>
    if low ≤ byte ∧ byte ≤ high then continued (value * 64 + (byte - 0x80)) 0x80 0xBF missing rest
    else ('\uFFFD', byte :: rest)

/-- Bytes as characters; every character takes at least one byte. -/
def characters : Nat → List Nat → List Char
  | 0, _ => []
  | _, [] => []
  | fuel + 1, byte :: rest =>
    if byte < 0x80 then Char.ofNat byte :: characters fuel rest
    else
      match lead? byte with
      | none => '\uFFFD' :: characters fuel rest
      | some (missing, bits, low, high) =>
        let (c, after) := continued bits low high missing rest
        c :: characters fuel after

/-- Decode a text, with the bytes of the current run of escapes in reverse. -/
def decodeFrom (run : List Nat) : List Char → List Char
  | [] => characters run.length run.reverse
  | '%' :: a :: b :: rest =>
    match Json.hexDigit? a, Json.hexDigit? b with
    | some high, some low => decodeFrom ((high * 16 + low) :: run) rest
    | _, _ => characters run.length run.reverse ++ '%' :: decodeFrom [] (a :: b :: rest)
  | c :: rest => characters run.length run.reverse ++ c :: decodeFrom [] rest
termination_by cs => cs.length

/-- A percent-encoded text. -/
def decode (text : String) : String := String.ofList (decodeFrom [] text.toList)

end Storefront.Http.Percent
