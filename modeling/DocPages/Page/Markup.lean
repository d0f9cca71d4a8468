import DocPages.Tree
import DocPages.Html.Escape

/-!
# Markup of Entities

The parts of a page that come from the tree: the navigation list, the signature of an entity, its
argument notes, and the overview of a class.  Every text from a comment is escaped, except the
descriptions of arguments, which may hold markup of their own.

## Main definitions

- `href`, `label`: the path and the short name of an entity
- `Tree.navigation`, `Tree.signatureMarkup`, `Tree.argumentsMarkup`, `Tree.classOverview`
-/

namespace DocPages

open Html (escape)

/-- The page path of a key: the mark of an instance method becomes `.prototype.`. -/
def href (key : Bytes) : Bytes :=
  Bytes.replaceFirst (bytes "#") (bytes ".prototype.") key ++ bytes ".html"

/-! ## §1 Labels -/

/-- The last dotted segment of what is left of a constructor's key, dot included; when nothing
    follows a dot there, the last segment of the key itself without its `new`. -/
def trailingSegment (rest key : Bytes) : Bytes :=
  let fallback :=
    let name := Bytes.trimPrefix (bytes "new ") key
    match Bytes.cutLast? (bytes ".") name with
    | some (_, segment) => bytes "." ++ segment
    | none => name
  match Bytes.cutLast? (bytes ".") rest with
  | some (_, []) => fallback
  | some (_, segment) => bytes "." ++ segment
  | none => fallback

/-- The short name of an entity: its key without the owning class and a leading dot.  An instance
    method keeps its `#`; of a constructor only the last segment stays. -/
def Entity.label (e : Entity) : Bytes :=
  match e.signature? with
  | none => e.key
  | some signature =>
    if signature.classKey.isEmpty then e.key
    else
      let rest := Bytes.replaceFirst signature.classKey [] e.key
      let rest := if e.kind = .constructor then trailingSegment rest e.key else rest
      Bytes.trimPrefix (bytes ".") rest

/-! ## §2 Signatures in source form -/

/-- Writes arguments, the `first` without a comma before it; from the first optional one on they stand
    in one pair of brackets, which may be `opened` already. -/
def writeArguments (first opened : Bool) : List Argument → Bytes
  | [] => if opened then bytes "]" else []
  | a :: rest =>
    (if !a.required && !opened then bytes "[" else []) ++ (if first then [] else bytes ", ") ++
      a.name ++ (if a.default.isEmpty then [] else bytes " = " ++ a.default) ++
      writeArguments false (opened || !a.required) rest

/-- The argument list of a signature as a declaration would write it. -/
def Signature.argumentsText (s : Signature) : Bytes := writeArguments true false s.arguments

/-! ## §3 Lists of entities -/

/-- The opening of a list item with a link to an entity. -/
def Entity.item (e : Entity) : Bytes :=
  bytes "<li class=\"type-" ++ e.kind.name ++ bytes "\"><a href=\"" ++ escape (href e.key) ++
    bytes "\" title=\"" ++ escape e.key ++ bytes " (" ++ e.kind.name ++ bytes ")\">" ++
    escape e.label ++ bytes "</a>"

/-- Closed list items, one for each entity. -/
def items (es : List Entity) : Bytes := es.flatMap fun e => e.item ++ bytes "</li>"

/-- A flat list of entities. -/
def entityList (es : List Entity) : Bytes :=
  bytes "<ul class=\"api-list\">" ++ items es ++ bytes "</ul>"

namespace Tree

/-- The entities behind handles. -/
def resolve (t : Tree) (hs : List Handle) : List Entity := hs.map t.entity

/-- A top-level item with the members of a class below it. -/
def rootItem (t : Tree) (e : Entity) : Bytes :=
  e.item ++ (if e.isClass then bytes "<ul>" ++ items (t.resolve e.members) ++ bytes "</ul>" else []) ++
    bytes "</li>"

/-- The navigation list: the top-level entities, each class with its members one level below. -/
def navigation (t : Tree) : Bytes :=
  bytes "<ul class=\"api-list\">" ++ (t.resolve t.root).flatMap t.rootItem ++ bytes "</ul>"

/-! ## §4 One entity -/

/-- A type name, as a link when it is the key of an entity. -/
def typeLink (t : Tree) (name : Bytes) : Bytes :=
  if t.has name then
    bytes "<a href=\"" ++ escape (href name) ++ bytes "\">" ++ escape name ++ bytes "</a>"
  else escape name

/-- The types of a result. -/
def returnsMarkup (t : Tree) (returns : List Bytes) : Bytes :=
  if returns.isEmpty then []
  else
    bytes " &rarr; <span class=\"return\">" ++
      Bytes.join (bytes " | ") (returns.map fun r =>
        bytes "<span class=\"object-" ++ escape r ++ bytes "\">" ++ t.typeLink r ++ bytes "</span>") ++
      bytes "</span>"

/-- The other forms of calling a constructor. -/
def aliasMarkup (e : Entity) : Bytes :=
  (e.aliases.filter (· != e.key)).flatMap fun a =>
    bytes "\n<span class=\"alias\">" ++ escape a ++ bytes "</span>"

/-- The signature of a constructor or method; a class has none. -/
def signatureMarkup (t : Tree) (e : Entity) : Bytes :=
  match e.signature? with
  | none => []
  | some s =>
    bytes "<span class=\"key\">" ++ escape e.key ++ bytes "</span>(<span class=\"arguments\">" ++
      escape s.argumentsText ++ bytes "</span>)" ++ t.returnsMarkup s.returns ++ aliasMarkup e

/-- The types of an argument, a question mark when none are known. -/
def argumentTypes (t : Tree) (types : List Bytes) : Bytes :=
  if types.isEmpty then bytes "?"
  else
    Bytes.join (bytes "|") (types.map fun name =>
      bytes "<code class=\"object-" ++ escape name ++ bytes "\">" ++ t.typeLink name ++ bytes "</code>")

/-- The notes on the arguments of a constructor or method, one list item each. -/
def argumentsMarkup (t : Tree) (e : Entity) : Bytes :=
  match e.signature? with
  | none => []
  | some s => s.arguments.flatMap fun a =>
    bytes "<li><code class=\"argument-name\">" ++ escape a.name ++ bytes "</code> (" ++
      t.argumentTypes a.types ++ bytes ") – " ++ a.description ++ bytes "</li>"

/-- One section of a class overview, absent when it would be empty. -/
def overviewSection (name title closing : Bytes) (es : List Entity) : Bytes :=
  if es.isEmpty then []
  else
    bytes "<div class=\"" ++ name ++ bytes "\"><h3>" ++ title ++ bytes "</h3>" ++ entityList es ++
      closing ++ bytes "</div>"

/-- The element that ends the floating of a section. -/
def clearing : Bytes := bytes "<div style=\"clear:both;\"></div>"

/-- The overview at the end of a class page: its constructor, instance methods and class methods. -/
def classOverview (t : Tree) (h : Handle) : Bytes :=
  bytes "<hr>" ++
    overviewSection (bytes "constructor") (bytes "Constructor") clearing
      (t.resolve (t.constructor? h).toList) ++
    overviewSection (bytes "instance-methods") (bytes "Instance methods") clearing
      (t.resolve (t.membersOf h .instanceMethod)) ++
    overviewSection (bytes "class-methods") (bytes "Class methods") []
      (t.resolve (t.membersOf h .classMethod))

end Tree

end DocPages
