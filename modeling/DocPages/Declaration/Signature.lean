import DocPages.Text.Blank
import DocPages.Text.Quoted

/-!
# Argument Lists and Type Unions

The text between the parentheses of a declaration lists its arguments: the required ones, then at
most one bracketed run of optional ones, as in `a, b[, c = 1, d]`.  A type union such as
`Foo | Bar` names the members between its bars.

## Main definitions

- `Parameter`: a declared argument
- `MalformedSignature`: why a list or a union is refused
- `Parameter.parse`, `parseArguments`, `parseTypes`
-/

namespace DocPages

/-- One argument of a declaration: its name, whether it stands outside the brackets, and the text
    of its default value (empty when it has none). -/
structure Parameter where
  name : Bytes
  required : Bool
  default : Bytes
  deriving DecidableEq, Repr

/-- Why the arguments or types of a declaration cannot be read. -/
inductive MalformedSignature where
  /-- The brackets do not enclose one final run. -/
  | unbalancedBrackets (text : Bytes)
  /-- Something follows the bracket that closes the optional run. -/
  | argumentList (text : Bytes)
  /-- A token is neither a name nor a name with a default. -/
  | argument (token : Bytes)
  /-- A member of a type union is blank. -/
  | emptyType (text : Bytes)
  deriving DecidableEq, Repr

namespace MalformedSignature

/-- The wording of each refusal. -/
def message : MalformedSignature → Bytes
  | unbalancedBrackets text => bytes "malformed signature: unbalanced brackets in " ++ quote text
  | argumentList text => bytes "malformed signature: argument list " ++ quote text
  | argument token => bytes "malformed signature: argument " ++ quote token
  | emptyType text => bytes "malformed signature: empty type in " ++ quote text

end MalformedSignature

/-! ## §1 Single arguments -/

/-- A byte that may stand in an argument's name: neither a space nor an equals sign. -/
def isNameByte (b : UInt8) : Bool := b != byte ' ' && b != byte '='

/-- Reads one trimmed token: the longest possible name, then the default text.  The mark ` = ` in
    front of the default is dropped when it is there, and the default holds no further `=`. -/
def parseArgument (required : Bool) (token : Bytes) : Except MalformedSignature Parameter :=
  let name := token.takeWhile isNameByte
  let rest := Bytes.trimPrefix (bytes " = ") (token.dropWhile isNameByte)
  if name.isEmpty || rest.contains (byte '=') then .error (.argument token)
  else .ok ⟨name, required, rest⟩

/-- Reads a comma-separated run of arguments; an empty run has none. -/
def parseRun (required : Bool) (run : Bytes) : Except MalformedSignature (List Parameter) :=
  if run.isEmpty then .ok []
  else (Bytes.splitOn (byte ',') run).mapM fun token => parseArgument required (trim token)

/-! ## §2 The optional run -/

/-- A bracket of either kind. -/
def isBracket (b : UInt8) : Bool := b == byte '[' || b == byte ']'

/-- Whether the brackets of an argument list are absent, or are one opening bracket before one
    closing bracket that only blanks follow. -/
def bracketsBalanced (s : Bytes) : Bool :=
  let found := s.filter isBracket
  found.isEmpty || (found == bytes "[]" && (bytes "]").isSuffixOf (trim s))

/-- Drops the separator that may open an optional run: a comma, a space, or both in this order. -/
def dropSeparator (s : Bytes) : Bytes := Bytes.trimPrefix (bytes " ") (Bytes.trimPrefix (bytes ",") s)

/-- Cuts an argument list into its required and optional runs.  Nothing may follow the closing
    bracket, not even a blank. -/
def splitRuns? (s : Bytes) : Option (Bytes × Bytes) :=
  let required := s.takeWhile fun b => !isBracket b
  match s.dropWhile fun b => !isBracket b with
  | [] => some (required, [])
  | _ :: rest =>
    match Bytes.dropSuffix? (bytes "]") rest with
    | some inner => if inner.any isBracket then none else some (required, dropSeparator inner)
    | none => none

/-- Reads the text between the parentheses of a declaration: the required arguments, then the
    optional ones, both in source order. -/
def parseArguments (s : Bytes) : Except MalformedSignature (List Parameter) :=
  if !bracketsBalanced s then .error (.unbalancedBrackets s)
  else
    match splitRuns? s with
    | none => .error (.argumentList s)
    | some (required, optional) => do
      let first ← parseRun true required
      let second ← parseRun false optional
      return first ++ second

/-! ## §3 Type unions -/

/-- Reads a union of types; every member must be non-blank. -/
def parseTypes (s : Bytes) : Except MalformedSignature (List Bytes) :=
  let members := (Bytes.splitOn (byte '|') s).map trim
  if members.any List.isEmpty then .error (.emptyType s) else .ok members

end DocPages
