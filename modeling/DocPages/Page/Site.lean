import DocPages.Page.Markup
import DocPages.Page.Template

/-!
# Sites

A site is the list of generated files: the index page, a page for each entity in order of first
declaration, then the assets of the templates by name.

## Main definitions

- `Page`, `Site`, `Site.page?`, `Site.paths`
- `Site.build`: the site of a tree
-/

namespace DocPages

open Html (escape)

/-- One generated file, its path relative to the output directory. -/
structure Page where
  path : Bytes
  content : Bytes
  deriving DecidableEq, Repr

/-- The generated files in their order, with the product they document. -/
structure Site where
  product : Bytes
  pages : List Page
  deriving DecidableEq, Repr

/-- The path of the index page. -/
def indexPath : Bytes := bytes "index.html"

namespace Site

/-- The first page with a path. -/
def page? (s : Site) (path : Bytes) : Option Page := s.pages.find? fun p => p.path = path

/-- The paths of all pages. -/
def paths (s : Site) : List Bytes := s.pages.map Page.path

end Site

/-- Text in Markdown to markup; a converter may fail with a message. -/
abbrev Converter := Bytes → Except Bytes Bytes

/-- A text that could not be converted, and the converter's message. -/
inductive SiteError where
  | readme (cause : Bytes)
  | entity (key cause : Bytes)
  deriving DecidableEq, Repr

/-- The wording of a site error. -/
def SiteError.message : SiteError → Bytes
  | .readme cause => bytes "readme: " ++ cause
  | .entity key cause => key ++ bytes ": " ++ cause

namespace Site

/-- The values of the placeholders of the index page, given the navigation list. -/
def indexValues (t : Tree) (apiList readme : Bytes) : List (Bytes × Bytes) :=
  [(bytes "[[product]]", escape t.product),
    (bytes "[[title]]", bytes "Top"),
    (bytes "[[type]]", []),
    (bytes "\x7b\x7bapiList\x7d\x7d", apiList),
    (bytes "\x7b\x7breadme\x7d\x7d",
      readme ++ bytes "<hr><div class=\"classes\"><h3>Classes</h3>" ++ apiList ++ bytes "</div>")]

/-- The values of the placeholders of an entity's page, given the navigation list. -/
def pageValues (t : Tree) (apiList linkPrefix : Bytes) (e : Entity) (description : Bytes) :
    List (Bytes × Bytes) :=
  let line := Bytes.decimal e.line
  [(bytes "[[product]]", escape t.product),
    (bytes "[[title]]", escape e.key),
    (bytes "[[type]]", e.kind.name),
    (bytes "[[sourceName]]", escape e.source),
    (bytes "[[sourceLine]]", line),
    (bytes "[[sourceLink]]", escape (linkPrefix ++ e.source ++ bytes "#L" ++ line)),
    (bytes "\x7b\x7bapiList\x7d\x7d", apiList),
    (bytes "\x7b\x7bebnf\x7d\x7d", t.signatureMarkup e),
    (bytes "\x7b\x7barguments\x7d\x7d", t.argumentsMarkup e),
    (bytes "\x7b\x7bdescription\x7d\x7d", description)]

/-- The index page. -/
def indexPage (t : Tree) (templates : Templates) (apiList readme : Bytes) : Page :=
  ⟨indexPath, fill templates.index (indexValues t apiList readme)⟩

/-- The description of an entity as markup; a class adds its overview. -/
def description (convert : Converter) (t : Tree) (h : Handle) : Except SiteError Bytes :=
  let e := t.entity h
  match convert e.text with
  | .error cause => .error (.entity e.key cause)
  | .ok text => .ok (if e.isClass then text ++ t.classOverview h else text)

/-- The page of an entity. -/
def entityPage (convert : Converter) (t : Tree) (templates : Templates)
    (apiList linkPrefix : Bytes) (h : Handle) : Except SiteError Page := do
  let text ← description convert t h
  let e := t.entity h
  return ⟨href e.key, fill templates.page (pageValues t apiList linkPrefix e text)⟩

/-- The pages that the assets of the templates become. -/
def assetPages (templates : Templates) : List Page :=
  (templates.assets.mergeSort fun a b => Bytes.le a.1 b.1).map fun (name, content) => ⟨name, content⟩

/-- The site of a tree. -/
def build (convert : Converter) (t : Tree) (readme : Bytes) (templates : Templates)
    (linkPrefix : Bytes) : Except SiteError Site := do
  let intro ← (convert readme).mapError .readme
  let apiList := t.navigation
  let pages ← t.entities.mapM (entityPage convert t templates apiList linkPrefix)
  return ⟨t.product, indexPage t templates apiList intro :: pages ++ assetPages templates⟩

end Site

end DocPages
