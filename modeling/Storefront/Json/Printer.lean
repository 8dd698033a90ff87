import Storefront.Json.Basic
import Storefront.Decimal.Shortest
import Storefront.Text.Quoted
/-!
# Writing JSON text

One value on one line, and the indented form of reports. Every character beyond ASCII is kept in
the compact form and escaped in the indented one.
-/

namespace Storefront.Json

/-- A character inside a written text. -/
def escapeChar (asciiOnly : Bool) (c : Char) : String :=
  if c = '"' then "\\\""
  else if c = '\\' then "\\\\"
  else if c = '\n' then "\\n"
  else if c = '\r' then "\\r"
  else if c = '\t' then "\\t"
  else if c = '\x08' then "\\b"
  else if c = '\x0c' then "\\f"
  else if c.toNat < 0x20 || (asciiOnly && c.toNat == 0x7F) then
    "\\u" ++ Text.hexadecimal 4 c.toNat
  else if asciiOnly && 0x7F < c.toNat then
    if c.toNat < 0x10000 then "\\u" ++ Text.hexadecimal 4 c.toNat
    else
      let above := c.toNat - 0x10000
      "\\u" ++ Text.hexadecimal 4 (0xD800 + above / 0x400) ++
        "\\u" ++ Text.hexadecimal 4 (0xDC00 + above % 0x400)
  else c.toString

/-- A text between quotes. -/
def writeText (asciiOnly : Bool) (text : String) : String :=
  "\"" ++ String.join (text.toList.map (escapeChar asciiOnly)) ++ "\""

/-- A float with the fewest digits that read back. -/
def writeFloat (x : Float) : String :=
  if x.isNaN then "NaN"
  else if x.isInf then (if x < 0.0 then "-Infinity" else "Infinity")
  else Decimal.plainNumber.render x

/-- A value that is neither a list nor an object, if it is one. -/
def writeLeaf? (asciiOnly : Bool) : Json → Option String
  | .null => some "null"
  | .bool value => some (if value then "true" else "false")
  | .int value => some (toString value)
  | .float value => some (writeFloat value)
  | .str text => some (writeText asciiOnly text)
  | _ => none

mutual

/-- A value on one line without blanks. -/
def compact : Json → String
  | .arr items => "[" ++ ",".intercalate (compactItems items) ++ "]"
  | .obj entries => "\x7b" ++ ",".intercalate (compactEntries entries) ++ "\x7d"
  | leaf => (writeLeaf? false leaf).getD ""

def compactItems : List Json → List String
  | [] => []
  | item :: rest => compact item :: compactItems rest

def compactEntries : List (String × Json) → List String
  | [] => []
  | (key, value) :: rest =>
    (writeText false key ++ ":" ++ compact value) :: compactEntries rest

end

/-- Written parts, each on a line of its own, between two brackets at a depth. -/
def block (opening closing : String) (depth : Nat) (parts : List String) : String :=
  let margin (level : Nat) := String.ofList (List.replicate (2 * level) ' ')
  if parts.isEmpty then opening ++ closing
  else
    opening ++ "\n" ++ ",\n".intercalate (parts.map (margin (depth + 1) ++ ·)) ++ "\n" ++
      margin depth ++ closing

mutual

/-- A value indented by two blanks a level. -/
def indentedAt (depth : Nat) : Json → String
  | .arr items => block "[" "]" depth (indentedItems (depth + 1) items)
  | .obj entries => block "\x7b" "\x7d" depth (indentedEntries (depth + 1) entries)
  | leaf => (writeLeaf? true leaf).getD ""

def indentedItems (depth : Nat) : List Json → List String
  | [] => []
  | item :: rest => indentedAt depth item :: indentedItems depth rest

def indentedEntries (depth : Nat) : List (String × Json) → List String
  | [] => []
  | (key, value) :: rest =>
    (writeText true key ++ ": " ++ indentedAt depth value) :: indentedEntries depth rest

end

/-- A value indented by two blanks a level, from the margin. -/
def indented (value : Json) : String := indentedAt 0 value

end Storefront.Json
