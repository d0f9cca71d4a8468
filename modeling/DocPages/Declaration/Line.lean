import DocPages.Declaration.Signature

/-!
# Documentation Lines

A line of a documentation comment either declares something, notes something about an argument, or
is prose.  Five shapes are told apart:

- `class ns.Name`
- `new ns.Name(arguments)` and `ns.createName(arguments)`
- `owner#name(arguments) -> types`
- `owner.name(arguments) -> types`
- `- name (types) - description`

Each shape has a recogniser that cuts the line into its parts (`classShape?` and following); where a
line can be cut in several ways the longest member name is taken.  `Line.classify` tries them in
this order and then reads the arguments and types of the first that fits.

## Main definitions

- `Declaration`, `ArgumentNote`, `Line`: what a line says
- `classShape?`, `constructorShape?`, `instanceMethodShape?`, `classMethodShape?`, `noteShape?`
- `Line.classify`
-/

namespace DocPages

/-- What a constructor or method line declares. -/
structure Declaration where
  /-- The fully qualified key. -/
  key : Bytes
  /-- The key of the class that it says it belongs to. -/
  classKey : Bytes
  parameters : List Parameter
  /-- The types of its result; a constructor results in its class. -/
  returns : List Bytes
  deriving DecidableEq, Repr

/-- A remark about one argument of the entity declared above it. -/
structure ArgumentNote where
  name : Bytes
  types : List Bytes
  description : Bytes
  deriving DecidableEq, Repr

/-- A documentation line, read. -/
inductive Line where
  | prose (text : Bytes)
  | classLine (key : Bytes)
  | constructorLine (declaration : Declaration)
  | instanceMethodLine (declaration : Declaration)
  | classMethodLine (declaration : Declaration)
  | noteLine (note : ArgumentNote)
  deriving DecidableEq, Repr

/-- The six kinds of documentation line. -/
inductive LineKind where
  | prose
  | classLine
  | constructorLine
  | instanceMethodLine
  | classMethodLine
  | noteLine
  deriving DecidableEq, Repr

namespace LineKind

/-- The kind with a given number; a number without a kind counts as prose. -/
def ofNumber (n : Int) : LineKind :=
  if n = 1 then classLine
  else if n = 2 then constructorLine
  else if n = 3 then instanceMethodLine
  else if n = 4 then classMethodLine
  else if n = 5 then noteLine
  else prose

/-- The name of a kind. -/
def name : LineKind → Bytes
  | prose => bytes "text"
  | classLine => bytes "class"
  | constructorLine => bytes "constructor"
  | instanceMethodLine => bytes "instance-method"
  | classMethodLine => bytes "class-method"
  | noteLine => bytes "argument-info"

end LineKind

namespace Line

/-- The kind of a line. -/
def kind : Line → LineKind
  | prose _ => .prose
  | classLine _ => .classLine
  | constructorLine _ => .constructorLine
  | instanceMethodLine _ => .instanceMethodLine
  | classMethodLine _ => .classMethodLine
  | noteLine _ => .noteLine

end Line

/-! ## §1 Keys -/

/-- A byte of a dotted key: an ASCII letter or a dot. -/
def isKeyByte (b : UInt8) : Bool := Bytes.isLetter b || b == byte '.'

/-- A capitalised name: a capital letter and at least one more letter. -/
def isCapitalised : Bytes → Bool
  | [] => false
  | c :: rest => Bytes.isUpper c && !rest.isEmpty && rest.all Bytes.isLetter

/-- Whether some end of the text is a capitalised name. -/
def endsCapitalised : Bytes → Bool
  | [] => false
  | c :: rest => isCapitalised (c :: rest) || endsCapitalised rest

/-- A class key: letters and dots that end in a capitalised name. -/
def isClassKey (k : Bytes) : Bool := k.all isKeyByte && endsCapitalised k

/-! ## §2 Shapes -/

/-- The parts of a constructor line. -/
structure ConstructorShape where
  key : Bytes
  classKey : Bytes
  arguments : Bytes
  deriving DecidableEq, Repr

/-- The parts of a method line. -/
structure MethodShape where
  owner : Bytes
  name : Bytes
  arguments : Bytes
  returns : Bytes
  deriving DecidableEq, Repr

/-- The parts of an argument note. -/
structure NoteShape where
  name : Bytes
  types : Bytes
  description : Bytes
  deriving DecidableEq, Repr

/-- The key of a class line. -/
def classShape? (line : Bytes) : Option Bytes :=
  match Bytes.dropPrefix? (bytes "class ") line with
  | some key => if isClassKey key then some key else none
  | none => none

/-- Cuts a factory key around its last `create` that a capitalised name follows up to the end. -/
def cutFactory? : Bytes → Option (Bytes × Bytes)
  | [] => none
  | c :: rest =>
    match cutFactory? rest with
    | some (before, name) => some (c :: before, name)
    | none =>
      match Bytes.dropPrefix? (bytes "create") (c :: rest) with
      | some name => if isCapitalised name then some ([], name) else none
      | none => none

/-- The class that a constructor key stands for: `new K` for `K`, and `ns.createName` for `ns.Name`. -/
def constructedClass? (key : Bytes) : Option Bytes :=
  match Bytes.dropPrefix? (bytes "new ") key with
  | some classKey => if isClassKey classKey then some classKey else none
  | none =>
    if key.all isKeyByte then (cutFactory? key).map fun (before, name) => before ++ name else none

/-- The parts of a constructor line: the key up to the first parenthesis, then arguments that hold
    no closing parenthesis before the one that ends the line. -/
def constructorShape? (line : Bytes) : Option ConstructorShape :=
  match Bytes.cutFirst? (bytes "(") line with
  | none => none
  | some (key, rest) =>
    match constructedClass? key, Bytes.dropSuffix? (bytes ")") rest with
    | some classKey, some arguments =>
      if arguments.contains (byte ')') then none else some ⟨key, classKey, arguments⟩
    | _, _ => none

/-- Cuts `arguments) -> returns`, neither part holding a closing parenthesis and the second not
    empty. -/
def callTail? (s : Bytes) : Option (Bytes × Bytes) :=
  let arguments := s.takeWhile (· != byte ')')
  match Bytes.dropPrefix? (bytes ") -> ") (s.dropWhile (· != byte ')')) with
  | some returns =>
    if returns.isEmpty || returns.contains (byte ')') then none else some (arguments, returns)
  | none => none

/-- Cuts `name(arguments) -> returns` with the longest name whose bytes all satisfy `ok`. -/
def cutCall? (ok : UInt8 → Bool) : Bytes → Option (Bytes × Bytes × Bytes)
  | [] => none
  | c :: rest =>
    match (if ok c then cutCall? ok rest else none) with
    | some (name, call) => some (c :: name, call)
    | none => if c = byte '(' then (callTail? rest).map fun call => ([], call) else none

/-- The parts of an instance method line. The owner ends at the first `#`, and the name holds none. -/
def instanceMethodShape? (line : Bytes) : Option MethodShape :=
  match Bytes.cutFirst? (bytes "#") line with
  | none => none
  | some (owner, rest) =>
    match cutCall? (· != byte '#') rest with
    | some (name, arguments, returns) =>
      if owner.isEmpty || name.isEmpty then none else some ⟨owner, name, arguments, returns⟩
    | none => none

/-- The parts of a class method line.  The owner ends at the last dot of the letters and dots that
    open the line, and the name holds no dot. -/
def classMethodShape? (line : Bytes) : Option MethodShape :=
  match Bytes.cutLast? (bytes ".") (line.takeWhile isKeyByte) with
  | none => none
  | some (owner, start) =>
    match cutCall? (· != byte '.') (start ++ line.dropWhile isKeyByte) with
    | some (name, arguments, returns) =>
      if owner.isEmpty || name.isEmpty then none else some ⟨owner, name, arguments, returns⟩
    | none => none

/-- Cuts the first character off a text, unless it is a newline. -/
def dropCharacter? (s : Bytes) : Option Bytes :=
  match firstRune? s with
  | some (r, rest) => if r.code = 0x0A then none else some rest
  | none => none

/-- The parts of an argument note. One character of any kind stands between the types and the
    description. -/
def noteShape? (line : Bytes) : Option NoteShape := do
  let rest ← Bytes.dropPrefix? (bytes "- ") line
  let (name, rest) ← Bytes.cutFirst? (bytes " ") rest
  let rest ← Bytes.dropPrefix? (bytes "(") rest
  let (types, rest) ← Bytes.cutFirst? (bytes ")") rest
  let rest ← Bytes.dropPrefix? (bytes " ") rest
  let rest ← dropCharacter? rest
  let description ← Bytes.dropPrefix? (bytes " ") rest
  if name.isEmpty || types.isEmpty || description.contains 0x0A then none
  else some ⟨name, types, description⟩

/-! ## §3 Reading a line -/

namespace ConstructorShape

/-- The declaration of a constructor line. -/
def declaration (s : ConstructorShape) : Except MalformedSignature Declaration := do
  let parameters ← parseArguments s.arguments
  return ⟨s.key, s.classKey, parameters, [s.classKey]⟩

end ConstructorShape

namespace MethodShape

/-- The declaration of a method line whose owner and name are joined by `mark`. -/
def declaration (mark : Bytes) (s : MethodShape) : Except MalformedSignature Declaration := do
  let parameters ← parseArguments s.arguments
  let returns ← parseTypes s.returns
  return ⟨s.owner ++ mark ++ s.name, s.owner, parameters, returns⟩

end MethodShape

namespace NoteShape

/-- The note of an argument line. -/
def note (s : NoteShape) : Except MalformedSignature ArgumentNote := do
  let types ← parseTypes s.types
  return ⟨s.name, types, s.description⟩

end NoteShape

namespace Line

/-- Reads one line without its comment decoration.  A line of no known shape is prose; a line of a
    known shape with unreadable arguments or types is refused. -/
def classify (line : Bytes) : Except MalformedSignature Line :=
  match classShape? line with
  | some key => .ok (.classLine key)
  | none =>
  match constructorShape? line with
  | some shape => shape.declaration.map .constructorLine
  | none =>
  match instanceMethodShape? line with
  | some shape => (shape.declaration (bytes "#")).map .instanceMethodLine
  | none =>
  match classMethodShape? line with
  | some shape => (shape.declaration (bytes ".")).map .classMethodLine
  | none =>
  match noteShape? line with
  | some shape => shape.note.map .noteLine
  | none => .ok (.prose line)

end Line

end DocPages
