import DocPages.Bytes

/-!
# Log Records

What a run reports on the side is data: each operation returns its records, and the outer layer
decides how to print them.
-/

namespace DocPages

namespace Log

/-- How much a record matters. -/
inductive Level where
  | debug
  | info
  | warn
  | error
  deriving DecidableEq, Repr

/-- The name of a level. -/
def Level.name : Level → Bytes
  | .debug => bytes "DEBUG"
  | .info => bytes "INFO"
  | .warn => bytes "WARN"
  | .error => bytes "ERROR"

/-- The weight of a level; the named levels leave room between them. -/
def Level.weight : Level → Int
  | .debug => -4
  | .info => 0
  | .warn => 4
  | .error => 8

/-- The value of an attribute. -/
inductive Value where
  | text (s : Bytes)
  | number (n : Int)
  deriving DecidableEq, Repr

/-- A value as plain text. -/
def Value.toBytes : Value → Bytes
  | .text s => s
  | .number n => Bytes.decimal n

/-- One record: its level, message and attributes in order. -/
structure Record where
  level : Level
  message : Bytes
  attributes : List (Bytes × Value)
  deriving DecidableEq, Repr

/-- The record with attributes put in front of its own. -/
def Record.withContext (context : List (Bytes × Value)) (r : Record) : Record :=
  { r with attributes := context ++ r.attributes }

end Log

end DocPages
