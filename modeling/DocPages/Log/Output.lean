import DocPages.Log
import DocPages.Json.Text
import DocPages.Text.Blank
import DocPages.Text.Numeral
import DocPages.Text.Quoted

/-!
# Log Output

A logger shows the records whose level reaches a threshold, one a line, as `key=value` pairs or as
JSON objects.

## Main definitions

- `Log.Threshold`: reading the least level to show
- `Log.Format`, `Log.Record.line`: a record as a line
- `Log.Logger`, `Log.Logger.output`
-/

namespace DocPages

namespace Log

/-! ## §1 Thresholds -/

/-- Why a text names no level. -/
inductive ThresholdError where
  | unknownName (text : Bytes)
  | offset (text number : Bytes) (fault : Numeral.Fault)
  deriving DecidableEq, Repr

/-- The wording of a threshold error. -/
def ThresholdError.message : ThresholdError → Bytes
  | .unknownName text => bytes "slog: level string " ++ quote text ++ bytes ": unknown name"
  | .offset text number fault =>
    bytes "slog: level string " ++ quote text ++ bytes ": strconv.Atoi: parsing " ++ quote number ++
      bytes ": " ++ fault.message

/-- The capital form of a name, as far as level names need it: the dotless small i has the capital of
    the dotted one. -/
def capitals : Bytes → Bytes
  | [] => []
  | 0xC4 :: 0xB1 :: rest => byte 'I' :: capitals rest
  | b :: rest => (if Bytes.isLower b then b - 0x20 else b) :: capitals rest

/-- The least level to show, from a name and perhaps an offset. -/
def threshold (text : Bytes) : Except ThresholdError Int :=
  let name := text.takeWhile fun b => b != byte '+' && b != byte '-'
  let number := text.drop name.length
  match (if number.isEmpty then .ok 0 else Numeral.decimal number) with
  | .error fault => .error (.offset text number fault)
  | .ok offset =>
    match [Level.debug, .info, .warn, .error].find? fun l => l.name == capitals name with
    | some level => .ok (Int.bmod (level.weight + offset) Numeral.wordCount)
    | none => .error (.unknownName text)

/-! ## §2 Lines -/

/-- How records are written. -/
inductive Format where
  | text
  | json
  deriving DecidableEq, Repr

/-- The format with a name; no name means text. -/
def Format.ofName? (name : Bytes) : Option Format :=
  if name = bytes "json" then some .json
  else if name = bytes "text" ∨ name = [] then some .text
  else none

/-- Whether a character cannot stand in a line of pairs without quotes. -/
def needsQuotes (r : Rune) : Bool :=
  if r.code < 0x80 then r.code ≤ 0x20 || r.code == 0x22 || r.code == 0x3D
  else r.code == Utf8.replacement || r.isBlank || !isPrintable r.code

/-- A key or value in a line of pairs. -/
def pairText (s : Bytes) : Bytes :=
  if s.isEmpty || (runes s).any needsQuotes then quote s else s

/-- The choices of JSON strings in logs. -/
def jsonStyle : Json.Style := ⟨false, false, bytes "\\ufffd"⟩

/-- A value in a JSON object. -/
def Value.json : Value → Bytes
  | .text s => Json.string jsonStyle s
  | .number n => Bytes.decimal n

/-- The record as a line, without its time. -/
def Record.line (format : Format) (r : Record) : Bytes :=
  let fields := [(bytes "level", Value.text r.level.name), (bytes "msg", .text r.message)] ++ r.attributes
  match format with
  | .text =>
    Bytes.join (bytes " ") (fields.map fun (k, v) =>
      pairText k ++ bytes "=" ++ pairText v.toBytes) ++ bytes "\n"
  | .json =>
    bytes "\x7b" ++ Bytes.join (bytes ",") (fields.map fun (k, v) =>
      Json.string jsonStyle k ++ bytes ":" ++ v.json) ++ bytes "\x7d\n"

/-! ## §3 Loggers -/

/-- What is shown, and how. -/
structure Logger where
  threshold : Int
  format : Format
  deriving DecidableEq, Repr

/-- Why there is no logger. -/
inductive LoggerError where
  | level (cause : ThresholdError)
  | format (name : Bytes)
  deriving DecidableEq, Repr

/-- The wording of a logger error. -/
def LoggerError.message : LoggerError → Bytes
  | .level cause => bytes "log level: " ++ cause.message
  | .format name => bytes "unknown log format " ++ quote name

/-- The logger for a level and a format. -/
def Logger.make (level format : Bytes) : Except LoggerError Logger :=
  match Log.threshold level with
  | .error cause => .error (.level cause)
  | .ok threshold =>
    match Format.ofName? format with
    | some format => .ok ⟨threshold, format⟩
    | none => .error (.format format)

/-- The lines of the records that a logger shows. -/
def Logger.lines (logger : Logger) (records : List Record) : List Bytes :=
  (records.filter fun r => logger.threshold ≤ r.level.weight).map (Record.line logger.format)

end Log

end DocPages
