import DocPages.Bytes

/-!
# Escaping for HTML

Text that is put into a page is escaped so that it can stand in element content and in quoted
attribute values alike.
-/

namespace DocPages

namespace Html

/-- How one byte stands in a page. -/
def escapeByte (b : UInt8) : Bytes :=
  match b with
  | 0x26 => bytes "&amp;"
  | 0x27 => bytes "&#39;"
  | 0x3C => bytes "&lt;"
  | 0x3E => bytes "&gt;"
  | 0x22 => bytes "&#34;"
  | 0x0D => bytes "&#13;"
  | b => [b]

/-- A text as it stands in a page. -/
def escape (s : Bytes) : Bytes := s.flatMap escapeByte

end Html

end DocPages
