import DocPages.Digest.Sha256
import DocPages.Page.Site

/-!
# The Digest of a Site

Two runs that produce the same pages in the same order have the same digest.  The hash is taken of
one stream in which a zero byte follows each path and each content.
-/

namespace DocPages

/-- The bytes that the digest of some pages is taken of. -/
def digestStream (pages : List Page) : Bytes :=
  pages.flatMap fun p => p.path ++ 0 :: p.content ++ [0]

/-- The digest of some pages, in hexadecimal. -/
def digest (pages : List Page) : Bytes := Bytes.hex (Sha256.hash (digestStream pages))

end DocPages
