import DocPages.Text.Utf8

/-!
# Text in JSON

A string in JSON stands between double quotes; quotes, backslashes and control characters are
escaped.  Writers differ in a few choices, which a `Style` records.

## Main definitions

- `Json.Style`: the choices of a writer
- `Json.string`: a text as a JSON string
- `Json.object`, `Json.array`: collections of values that are already written
-/

namespace DocPages

namespace Json

/-- The choices that writers of JSON strings make. -/
structure Style where
  /-- Whether the characters that HTML treats specially are escaped. -/
  escapesHtml : Bool
  /-- Whether backspace and form feed have short escapes. -/
  shortControls : Bool
  /-- What a malformed byte becomes. -/
  malformed : Bytes

/-- Four hexadecimal digits after `\u`. -/
def unicodeEscape (c : Nat) : Bytes :=
  bytes "\\u" ++ [c / 4096 % 16, c / 256 % 16, c / 16 % 16, c % 16].map Bytes.hexDigit

/-- How one character stands in a string. -/
def rune (style : Style) (r : Rune) : Bytes :=
  if r.isMalformed then style.malformed
  else if r.code == 0x22 || r.code == 0x5C then byte '\\' :: r.raw
  else if r.code == 0x0A then bytes "\\n"
  else if r.code == 0x0D then bytes "\\r"
  else if r.code == 0x09 then bytes "\\t"
  else if style.shortControls && r.code == 0x08 then bytes "\\b"
  else if style.shortControls && r.code == 0x0C then bytes "\\f"
  else if r.code < 0x20 || r.code == 0x2028 || r.code == 0x2029 then unicodeEscape r.code
  else if style.escapesHtml && (r.code == 0x3C || r.code == 0x3E || r.code == 0x26) then
    unicodeEscape r.code
  else r.raw

/-- A text as a JSON string. -/
def string (style : Style) (s : Bytes) : Bytes :=
  byte '"' :: (runes s).flatMap (rune style) ++ [byte '"']

/-- An object with members in the given order; names need no escapes. -/
def object (members : List (String × Bytes)) : Bytes :=
  bytes "\x7b" ++ Bytes.join (bytes ",") (members.map fun (name, value) =>
    bytes "\"" ++ bytes name ++ bytes "\":" ++ value) ++ bytes "\x7d"

/-- An array of values. -/
def array (values : List Bytes) : Bytes := bytes "[" ++ Bytes.join (bytes ",") values ++ bytes "]"

end Json

end DocPages
