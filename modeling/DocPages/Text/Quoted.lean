import DocPages.Text.Utf8
import DocPages.Text.Printable

/-!
# Quoted Text

Messages show the texts they talk about between double quotes.  A backslash introduces what cannot
stand there as it is: the quote, the backslash, the seven named control characters, a byte outside
UTF-8 or another ASCII control (`\xNN`), and any other character that does not print (`\uNNNN`,
`\UNNNNNNNN`).
-/

namespace DocPages

namespace Quoted

/-- `n` hexadecimal digits of a number, most significant first. -/
def hexDigits : Nat → Nat → Bytes
  | 0, _ => []
  | n + 1, c => hexDigits n (c / 16) ++ [Bytes.hexDigit (c % 16)]

/-- The letter that names a control character after a backslash. -/
def controlLetter? (c : Nat) : Option Char :=
  match c with
  | 0x07 => some 'a'
  | 0x08 => some 'b'
  | 0x09 => some 't'
  | 0x0A => some 'n'
  | 0x0B => some 'v'
  | 0x0C => some 'f'
  | 0x0D => some 'r'
  | _ => none

/-- How one rune stands between quotes. -/
def rune (r : Rune) : Bytes :=
  if r.isMalformed then bytes "\\x" ++ r.raw.flatMap Bytes.hexByte
  else if r.code == 0x22 || r.code == 0x5C then byte '\\' :: r.raw
  else if isPrintable r.code then r.raw
  else
    match controlLetter? r.code with
    | some letter => [byte '\\', byte letter]
    | none =>
      if r.code < 0x80 then bytes "\\x" ++ hexDigits 2 r.code
      else if r.code < 0x10000 then bytes "\\u" ++ hexDigits 4 r.code
      else bytes "\\U" ++ hexDigits 8 r.code

end Quoted

/-- A text between double quotes, with escapes for what would not print. -/
def quote (s : Bytes) : Bytes :=
  byte '"' :: (runes s).flatMap Quoted.rune ++ [byte '"']

end DocPages
