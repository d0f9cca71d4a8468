import DocPages.Entity

/-!
# The Tree of Entities

A tree keeps every entity it was given, an index from keys to the entities that stand for them now,
and the containers: the top-level list and the members of each class.  A key keeps its place in the
order of declaration from its first declaration on, whatever replaces it later.

The index is one of four tables over the same keys; the others list the keys in order, the class
that holds each entity, and the classes alone.  Every change has to keep them in step.

## Main definitions

- `Table`: a finite map from byte texts
- `Tree`: the store, the four tables and the top-level list
- `Tree.lookup?`, `Tree.class?`, `Tree.owner?`, `Tree.entities`: the views of the tables
- `Tree.container`: what a class, or the top level, holds
- `Tree.attach`: registers an entity under its key and puts it into a container
-/

namespace DocPages

/-- A finite map from byte texts; the first entry of a key counts. -/
abbrev Table (α : Type) := List (Bytes × α)

namespace Table

/-- The value of a key. -/
def find? {α : Type} (m : Table α) (key : Bytes) : Option α := m.lookup key

/-- The map with a value for a key, in place of the value it had. -/
def put {α : Type} (key : Bytes) (value : α) : Table α → Table α
  | [] => [(key, value)]
  | (k, old) :: rest => if k = key then (k, value) :: rest else (k, old) :: put key value rest

/-- The map without a key. -/
def remove {α : Type} (key : Bytes) (m : Table α) : Table α := m.filter fun entry => entry.1 ≠ key

end Table

/-- The entities of a run with their index and their nesting. -/
structure Tree where
  /-- The name that the product banner gave. -/
  product : Bytes
  /-- All entities ever made, by handle. -/
  store : Array Entity
  /-- The entity that stands for each key. -/
  index : Table Handle
  /-- The keys in order of first declaration. -/
  order : List Bytes
  /-- The class that holds the entity under each key; the top level has none. -/
  owners : Table (Option Handle)
  /-- The class that stands for each key of a class. -/
  classes : Table Handle
  /-- The entities that no class holds. -/
  root : List Handle
  deriving DecidableEq, Repr

namespace Tree

/-- The tree without entities. -/
def empty : Tree := ⟨[], #[], [], [], [], [], []⟩

instance : Inhabited Tree := ⟨empty⟩

/-! ## §1 Views -/

/-- The entity behind a handle. -/
def entity (t : Tree) (h : Handle) : Entity := t.store.getD h default

/-- The entity that stands for a key. -/
def lookup? (t : Tree) (key : Bytes) : Option Handle := t.index.find? key

/-- Whether a key is known. -/
def has (t : Tree) (key : Bytes) : Bool := (t.lookup? key).isSome

/-- The class that holds the entity under a key. -/
def owner? (t : Tree) (key : Bytes) : Option Handle := (t.owners.find? key).join

/-- The class that stands for a key; other entities do not count. -/
def class? (t : Tree) (key : Bytes) : Option Handle := t.classes.find? key

/-- The indexed entities in order of first declaration. -/
def entities (t : Tree) : List Handle := t.order.filterMap t.lookup?

/-- How many keys are known. -/
def size (t : Tree) : Nat := t.index.length

/-- What a class holds, or the top level when there is no class. -/
def container (t : Tree) : Option Handle → List Handle
  | none => t.root
  | some h => (t.entity h).members

/-- The members of a class that have a kind. -/
def membersOf (t : Tree) (h : Handle) (kind : Kind) : List Handle :=
  (t.entity h).members.filter fun m => (t.entity m).kind = kind

/-- The first constructor among the members of a class. -/
def constructor? (t : Tree) (h : Handle) : Option Handle :=
  (t.entity h).members.find? fun m => (t.entity m).kind = .constructor

/-! ## §2 Changes -/

/-- Adds an entity to the store, without registering it. -/
def create (t : Tree) (e : Entity) : Tree × Handle :=
  ({ t with store := t.store.push e }, t.store.size)

/-- Changes the entity behind a handle. -/
def modify (t : Tree) (h : Handle) (f : Entity → Entity) : Tree :=
  { t with store := t.store.modify h f }

/-- Changes what a class, or the top level, holds. -/
def modifyContainer (t : Tree) (owner : Option Handle) (f : List Handle → List Handle) : Tree :=
  match owner with
  | none => { t with root := f t.root }
  | some h => t.modify h fun e => e.withMembers (f e.members)

/-- Registers a class under its key; other entities are not registered so. -/
def registerClass (t : Tree) (key : Bytes) (h : Handle) : Tree :=
  if (t.entity h).isClass then { t with classes := t.classes.put key h } else t

/-- Registers an entity and its owner under a key. -/
def register (t : Tree) (key : Bytes) (h : Handle) (owner : Option Handle) : Tree :=
  { t with index := t.index.put key h, owners := t.owners.put key owner }.registerClass key h

/-- Records another owner for each of some entities. -/
def reownAll (t : Tree) (owner : Option Handle) (hs : List Handle) : Tree :=
  { t with owners := hs.foldl (fun owners h => owners.put (t.entity h).key owner) t.owners }

/-- Finds a place for the members of a class that is about to be displaced: a class in its stead
    takes them over, otherwise they move to the top level. -/
def rehome (t : Tree) (old new : Handle) : Tree :=
  let members := (t.entity old).members
  if (t.entity new).isClass then
    (t.modify new (·.withMembers members)).reownAll (some new) members
  else
    let t := t.reownAll none members
    { t with root := t.root ++ members }

/-- Takes the class under a key out of the classes and finds a place for its members. -/
def retire (t : Tree) (key : Bytes) (old new : Handle) : Tree :=
  if (t.entity old).isClass then
    { t with classes := t.classes.remove key }.rehome old new
  else t

/-- A list with the first occurrence of `old` replaced by `new`. -/
def replaceFirst (old new : Handle) : List Handle → List Handle
  | [] => []
  | h :: rest => if h = old then new :: rest else h :: replaceFirst old new rest

/-- Puts `new` where `old` stood when both have the same owner; otherwise takes `old` out of its
    container and appends `new` to its own. -/
def relocate (t : Tree) (old new : Handle) (oldOwner owner : Option Handle) : Tree :=
  if oldOwner = owner then
    if old ∈ t.container owner then t.modifyContainer owner (replaceFirst old new)
    else t.modifyContainer owner (· ++ [new])
  else (t.modifyContainer oldOwner (·.erase old)).modifyContainer owner (· ++ [new])

/-- Registers an entity under its key and puts it into the members of `owner`, or at the top level.
    An entity already under that key is displaced from the index and from its container, and
    returned. -/
def attach (t : Tree) (h : Handle) (owner : Option Handle) : Tree × Option Handle :=
  let key := (t.entity h).key
  match t.lookup? key with
  | none =>
    let t := { t with order := t.order ++ [key] }
    ((t.register key h owner).modifyContainer owner (· ++ [h]), none)
  | some old =>
    let oldOwner := t.owner? key
    (((t.retire key old h).register key h owner).relocate old h oldOwner owner, some old)

end Tree

end DocPages
