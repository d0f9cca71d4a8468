import DocPages.Bytes

/-!
# Templates

A page is a template whose placeholders are filled in one pass, so that what a value brings in is
never taken for a placeholder.  A set of templates has one for the index page, one for the pages of
entities, and files that go along unchanged.

## Main definitions

- `fill`: replaces placeholders by their values
- `Templates`, `Templates.builtIn`
-/

namespace DocPages

/-! ## §1 Filling -/

/-- The value of the first key that the text begins with, and the number of bytes of that key after
    its first.  Empty keys do not count. -/
def firstMatch? (s : Bytes) : List (Bytes × Bytes) → Option (Bytes × Nat)
  | [] => none
  | (key, value) :: rest =>
    if !key.isEmpty && key.isPrefixOf s then some (value, key.length - 1) else firstMatch? s rest

/-- Fills a template after its first `skip` bytes.  `between` goes in front of every byte and
    every placeholder, and to the end. -/
def fillFrom (between : Bytes) (pairs : List (Bytes × Bytes)) : Nat → Bytes → Bytes
  | _, [] => between
  | skip + 1, _ :: rest => fillFrom between pairs skip rest
  | 0, b :: rest =>
    between ++
      match firstMatch? (b :: rest) pairs with
      | some (value, more) => value ++ fillFrom between pairs more rest
      | none => b :: fillFrom between pairs 0 rest

/-- The template with each placeholder replaced by its value, in one pass from left to right.  Where
    several keys begin, the least of them is taken; the value of an empty key is put at every
    position. -/
def fill (template : Bytes) (values : List (Bytes × Bytes)) : Bytes :=
  let pairs := values.mergeSort fun a b => Bytes.le a.1 b.1
  fillFrom ((pairs.lookup []).getD []) pairs 0 template

/-! ## §2 Sets of templates -/

/-- The templates of a site. -/
structure Templates where
  index : Bytes
  page : Bytes
  /-- Files that become pages as they are, by name. -/
  assets : List (Bytes × Bytes)
  deriving DecidableEq, Repr

/-- The name of the index template. -/
def indexTemplate : Bytes := bytes "index.html"

/-- The name of the template for entities. -/
def pageTemplate : Bytes := bytes "page.html"

namespace Templates

/-- The template of the index page that is used when none is given. -/
def builtInIndex : Bytes := [
    "<!DOCTYPE html>\n",
    "<html>\n",
    "<head>\n",
    "<meta charset=\"utf-8\">\n",
    "<title>[[title]] - [[product]]</title>\n",
    "<link rel=\"stylesheet\" href=\"flagdoc.css\">\n",
    "</head>\n",
    "<body>\n",
    "<header><h1>[[product]]</h1></header>\n",
    "<nav>\x7b\x7bapiList\x7d\x7d</nav>\n",
    "<main class=\"[[type]]\">\n",
    "<h2>[[title]]</h2>\n",
    "\x7b\x7breadme\x7d\x7d\n",
    "</main>\n",
    "</body>\n",
    "</html>\n"].flatMap bytes

/-- The template of entity pages that is used when none is given. -/
def builtInPage : Bytes := [
    "<!DOCTYPE html>\n",
    "<html>\n",
    "<head>\n",
    "<meta charset=\"utf-8\">\n",
    "<title>[[title]] - [[product]]</title>\n",
    "<link rel=\"stylesheet\" href=\"flagdoc.css\">\n",
    "</head>\n",
    "<body>\n",
    "<header><h1><a href=\"index.html\">[[product]]</a></h1></header>\n",
    "<nav>\x7b\x7bapiList\x7d\x7d</nav>\n",
    "<main class=\"type-[[type]]\">\n",
    "<h2>[[title]] <small>([[type]])</small></h2>\n",
    "<pre class=\"ebnf\">\x7b\x7bebnf\x7d\x7d</pre>\n",
    "<ul class=\"arguments\">\x7b\x7barguments\x7d\x7d</ul>\n",
    "<div class=\"description\">\x7b\x7bdescription\x7d\x7d</div>\n",
    "<p class=\"source\"><a href=\"[[sourceLink]]\">[[sourceName]]:[[sourceLine]]</a></p>\n",
    "</main>\n",
    "</body>\n",
    "</html>\n"].flatMap bytes

/-- The style sheet that goes with the built-in templates. -/
def builtInStyle : Bytes := [
    "body \x7b font-family: sans-serif; margin: 0; display: grid; grid-template-columns: 16em 1fr; \x7d\n",
    "header \x7b grid-column: 1 / 3; padding: 0.5em 1em; border-bottom: 1px solid #ddd; \x7d\n",
    "nav \x7b padding: 1em; border-right: 1px solid #ddd; \x7d\n",
    "main \x7b padding: 1em 2em; \x7d\n",
    "ul.api-list \x7b list-style: none; padding-left: 0; \x7d\n",
    "ul.api-list ul \x7b list-style: none; padding-left: 1em; \x7d\n",
    "li.type-constructor a \x7b font-style: italic; \x7d\n",
    "li.type-class-method a::before \x7b content: \".\"; \x7d\n",
    "pre.ebnf \x7b background: #f6f6f6; padding: 0.5em; \x7d\n",
    "span.alias \x7b color: #777; \x7d\n",
    "code.argument-name \x7b font-weight: bold; \x7d\n"].flatMap bytes

/-- The built-in templates. -/
def builtIn : Templates := ⟨builtInIndex, builtInPage, [(bytes "flagdoc.css", builtInStyle)]⟩

end Templates

end DocPages
