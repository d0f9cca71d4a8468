import DocPages.Declaration.Line

/-!
# Documented Entities

A documented entity is a class, a constructor, an instance method or a class method.  All have a
key, a description and the place of their declaration; constructors and methods have a signature,
classes have members.  Members are named by handles, the positions of entities in their tree.

## Main definitions

- `Kind`, `Argument`, `Signature`, `Entity`
- `Signature.annotate?`: what an argument note changes
- `Entity.appendLine`, `Entity.addAlias`
-/

namespace DocPages

/-- The position of an entity among all entities that a tree has seen. -/
abbrev Handle := Nat

/-- The four kinds of entity. -/
inductive Kind where
  | classEntity
  | constructor
  | instanceMethod
  | classMethod
  deriving DecidableEq, Repr

namespace Kind

/-- The name of a kind. -/
def name : Kind → Bytes
  | classEntity => bytes "class"
  | constructor => bytes "constructor"
  | instanceMethod => bytes "instance-method"
  | classMethod => bytes "class-method"

/-- The kind with a given number. -/
def ofNumber? (n : Int) : Option Kind :=
  if n = 0 then some classEntity
  else if n = 1 then some constructor
  else if n = 2 then some instanceMethod
  else if n = 3 then some classMethod
  else none

/-- The name of the kind with a given number. -/
def nameOfNumber (n : Int) : Bytes := ((ofNumber? n).map name).getD (bytes "unknown")

end Kind

/-- One argument of a constructor or method. -/
structure Argument where
  name : Bytes
  required : Bool
  /-- The position in the list, from zero. -/
  number : Int
  /-- The declared default, empty when there is none. -/
  default : Bytes
  /-- The types a note gave it. -/
  types : List Bytes
  /-- The description a note gave it. -/
  description : Bytes
  deriving DecidableEq, Repr

/-- What constructors and methods have in common. -/
structure Signature where
  /-- The key of the owning class, empty for an entity at the top level. -/
  classKey : Bytes
  arguments : List Argument
  returns : List Bytes
  deriving DecidableEq, Repr

namespace Signature

/-- The first argument with a name. -/
def argument? (s : Signature) (name : Bytes) : Option Argument :=
  s.arguments.find? fun a => a.name = name

/-- The arguments after a note about the first one with the note's name. -/
def annotateFirst (note : ArgumentNote) : List Argument → List Argument
  | [] => []
  | a :: rest =>
    if a.name = note.name then { a with types := note.types, description := note.description } :: rest
    else a :: annotateFirst note rest

/-- The signature after a note, if it has an argument with the note's name. -/
def annotate? (s : Signature) (note : ArgumentNote) : Option Signature :=
  if (s.argument? note.name).isSome then
    some { s with arguments := annotateFirst note s.arguments }
  else none

end Signature

/-- What an entity has by virtue of its kind. -/
inductive Body where
  /-- A class with its members in declaration order. -/
  | classBody (members : List Handle)
  /-- A constructor with every form of calling it, its key first. -/
  | constructorBody (signature : Signature) (aliases : List Bytes)
  /-- A method of instances, or of the class itself when static. -/
  | methodBody (static : Bool) (signature : Signature)
  deriving DecidableEq, Repr

/-- A documented entity. -/
structure Entity where
  key : Bytes
  /-- The description, one newline after each line. -/
  text : Bytes
  /-- The script that declares it. -/
  source : Bytes
  /-- The line of that script, from one. -/
  line : Int
  body : Body
  deriving DecidableEq, Repr

instance : Inhabited Entity := ⟨⟨[], [], [], 0, .classBody []⟩⟩

namespace Entity

/-- The kind of an entity. -/
def kind (e : Entity) : Kind :=
  match e.body with
  | .classBody _ => .classEntity
  | .constructorBody _ _ => .constructor
  | .methodBody true _ => .classMethod
  | .methodBody false _ => .instanceMethod

/-- Whether an entity is a class. -/
def isClass (e : Entity) : Bool :=
  match e.body with
  | .classBody _ => true
  | _ => false

/-- The members of a class; nothing else has any. -/
def members (e : Entity) : List Handle :=
  match e.body with
  | .classBody members => members
  | _ => []

/-- The class with other members; other entities stay as they are. -/
def withMembers (e : Entity) (members : List Handle) : Entity :=
  match e.body with
  | .classBody _ => { e with body := .classBody members }
  | _ => e

/-- The signature of a constructor or method. -/
def signature? (e : Entity) : Option Signature :=
  match e.body with
  | .classBody _ => none
  | .constructorBody signature _ => some signature
  | .methodBody _ signature => some signature

/-- The constructor or method with another signature; classes stay as they are. -/
def withSignature (e : Entity) (signature : Signature) : Entity :=
  match e.body with
  | .classBody _ => e
  | .constructorBody _ aliases => { e with body := .constructorBody signature aliases }
  | .methodBody static _ => { e with body := .methodBody static signature }

/-- The forms of calling a constructor. -/
def aliases (e : Entity) : List Bytes :=
  match e.body with
  | .constructorBody _ aliases => aliases
  | _ => []

/-- The entity with one more line of description. -/
def appendLine (e : Entity) (line : Bytes) : Entity :=
  { e with text := e.text ++ line ++ [0x0A] }

/-- The constructor with one more form of calling it; other entities stay as they are. -/
def addAlias (e : Entity) (key : Bytes) : Entity :=
  match e.body with
  | .constructorBody signature aliases => { e with body := .constructorBody signature (aliases ++ [key]) }
  | _ => e

end Entity

end DocPages
