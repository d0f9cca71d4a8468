import DocPages.Html.Token

/-!
# HTML Documents

The elements of a page form a tree.  While a page is read, elements are moved about: an element is
therefore known by its number, and the tree is the list of children of each.  Text is not kept.

## Main definitions

- `Element`, `Document`
- `Document.append`, `Document.insertBefore`, `Document.detach`, `Document.moveChildren`
- `Document.inOrder`: the elements in the order in which they stand in the page
-/

namespace DocPages

namespace Html

/-- The vocabulary that an element belongs to. -/
inductive Vocabulary where
  | html
  | svg
  | math
  deriving DecidableEq, Repr

/-- The number of an element; the document itself is number zero. -/
abbrev ElementId := Nat

/-- One element. -/
structure Element where
  name : Bytes
  vocabulary : Vocabulary
  attributes : List Attribute
  parent : Option ElementId
  children : List ElementId

namespace Element

/-- An element that stands nowhere yet. -/
def fresh (name : Bytes) (vocabulary : Vocabulary) (attributes : List Attribute) : Element :=
  ⟨name, vocabulary, attributes, none, []⟩

/-- The value of the first attribute with a name. -/
def attribute? (e : Element) (name : Bytes) : Option Bytes :=
  (e.attributes.find? fun a => a.name = name).map Attribute.value

end Element

/-- The elements of a page, by number. -/
structure Document where
  elements : Array Element

namespace Document

/-- A document without elements. -/
def empty : Document := ⟨#[.fresh [] .html []]⟩

/-- The element with a number. -/
def element (d : Document) (id : ElementId) : Element :=
  d.elements.getD id (.fresh [] .html [])

/-- Adds an element that stands nowhere yet. -/
def create (d : Document) (e : Element) : Document × ElementId :=
  (⟨d.elements.push e⟩, d.elements.size)

/-- Changes an element. -/
def modify (d : Document) (id : ElementId) (f : Element → Element) : Document :=
  ⟨d.elements.modify id f⟩

/-- Takes an element from where it stands. -/
def detach (d : Document) (id : ElementId) : Document :=
  match (d.element id).parent with
  | none => d
  | some parent =>
    (d.modify parent fun e => { e with children := e.children.filter (· != id) }).modify id
      fun e => { e with parent := none }

/-- Makes a detached element the last child of another. -/
def append (d : Document) (parent id : ElementId) : Document :=
  (d.modify parent fun e => { e with children := e.children ++ [id] }).modify id
    fun e => { e with parent := some parent }

/-- Puts a detached element in front of a child of another. -/
def insertBefore (d : Document) (parent before id : ElementId) : Document :=
  (d.modify parent fun e =>
      { e with children := e.children.flatMap fun c => if c = before then [id, c] else [c] }).modify id
    fun e => { e with parent := some parent }

/-- Makes the children of one element the last children of another. -/
def moveChildren (d : Document) (source destination : ElementId) : Document :=
  (d.element source).children.foldl (fun d c => (d.detach c).append destination c) d

/-- The elements from one on in the order of the page; `fuel` bounds the depth. -/
def walk (d : Document) : Nat → ElementId → List Element
  | 0, _ => []
  | fuel + 1, id =>
    let e := d.element id
    e :: e.children.flatMap (walk d fuel)

/-- The elements in the order in which they stand in the page. -/
def inOrder (d : Document) : List Element := d.walk (d.elements.size + 1) 0

end Document

end Html

end DocPages
