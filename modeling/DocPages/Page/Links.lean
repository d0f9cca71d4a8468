import DocPages.Html.Construction
import DocPages.Page.Site
import DocPages.Path
import DocPages.Url

/-!
# Links Between Pages

A relative link to a page that was not generated is broken.  Links to other sites, to places in the
same page and to files that are no pages are not looked at.

## Main definitions

- `localTarget?`: the page that a link on a page leads to
- `brokenLinks`: the links of a site that lead nowhere
-/

namespace DocPages

/-- The ending of the paths of pages. -/
def pageEnding : Bytes := bytes ".html"

/-- Whether a path is that of a page. -/
def isPagePath (path : Bytes) : Bool := (Bytes.dropSuffix? pageEnding path).isSome

/-- The path of the page that a link leads to from the page at `path`; none if the link is no
    relative link to a page. -/
def localTarget? (path href : Bytes) : Option Bytes :=
  match Url.relativePath? href with
  | none => none
  | some target =>
    if isPagePath target && !Path.isAbsolute target then some (Path.join (Path.directory path) target)
    else none

/-- A link that leads to no page. -/
structure BrokenLink where
  page : Bytes
  href : Bytes
  deriving DecidableEq, Repr

/-- The destinations of the links of a page, in order and without repetition; none if the page cannot
    be read. -/
def pageLinks (content : Bytes) : List Bytes :=
  match Html.parsePage? content with
  | none => []
  | some document =>
    (document.inOrder.filterMap fun e =>
      if e.name = bytes "a" then e.attribute? (bytes "href") else none).eraseDups

/-- The broken links of one page among pages with known paths. -/
def brokenLinksOf (known : List Bytes) (page : Page) : List BrokenLink :=
  if isPagePath page.path then
    (pageLinks page.content).filterMap fun href =>
      match localTarget? page.path href with
      | some target => if known.contains target then none else some ⟨page.path, href⟩
      | none => none
  else []

/-- The broken links of all pages, page by page. -/
def brokenLinks (pages : List Page) : List BrokenLink :=
  pages.flatMap (brokenLinksOf (pages.map Page.path))

end DocPages
