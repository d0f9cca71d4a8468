import DocPages.Text.CommaSeparated
import DocPages.Text.Numeral
import DocPages.Text.Quoted

/-!
# Flags

Flags set values on the command line: `--name value`, `--name=value` or, for a flag with a letter,
`-n value`, `-nvalue` and `-n=value`.  A flag for a truth value needs no value.  Letters of such flags
may be joined.  Two hyphens alone end the flags; what is no flag is an argument.

## Main definitions

- `Flag`, `Flag.Value`
- `FlagError`: why a command line cannot be read
- `readFlags`: the values and the arguments of a command line
-/

namespace DocPages

/-! ## §1 Flags and their values -/

/-- The kind of value that a flag takes. -/
inductive FlagKind where
  | text
  | texts
  | integer
  | truth
  deriving DecidableEq, Repr

/-- A flag of a command. -/
structure Flag where
  name : String
  /-- The letter that stands for the name. -/
  letter : Option Char
  kind : FlagKind
  usage : String
  deriving DecidableEq, Repr

/-- A value given to a flag. -/
inductive Flag.Value where
  | text (s : Bytes)
  | texts (ss : List Bytes)
  | integer (n : Int)
  | truth (b : Bool)
  deriving DecidableEq, Repr

namespace Flag

/-- How a flag is named in messages. -/
def label (f : Flag) : Bytes :=
  (match f.letter with
    | some c => [byte '-', byte c] ++ bytes ", "
    | none => []) ++ bytes "--" ++ bytes f.name

/-- Whether a flag needs no value. -/
def isSwitch (f : Flag) : Bool := f.kind == .truth

/-- Reads the value of a flag; an error is told in words. -/
def read (f : Flag) (s : Bytes) : Except Bytes Value :=
  match f.kind with
  | .text => .ok (.text s)
  | .texts =>
    match CommaSeparated.read s with
    | .ok ss => .ok (.texts ss)
    | .error fault => .error fault.message
  | .integer =>
    match Numeral.prefixed s with
    | .ok n => .ok (.integer n)
    | .error fault =>
      .error (bytes "strconv.ParseInt: parsing " ++ quote s ++ bytes ": " ++ fault.message)
  | .truth =>
    match Numeral.truth? s with
    | some b => .ok (.truth b)
    | none =>
      .error (bytes "strconv.ParseBool: parsing " ++ quote s ++ bytes ": "
        ++ Numeral.Fault.message .malformed)

end Flag

/-! ## §2 Errors -/

/-- Why a command line cannot be read. -/
inductive FlagError where
  | malformed (argument : Bytes)
  | unknown (name : Bytes)
  | unknownLetter (letter : UInt8) (letters : Bytes)
  | noValue (argument : Bytes)
  | noLetterValue (letter : UInt8) (letters : Bytes)
  | badValue (value label cause : Bytes)
  deriving DecidableEq, Repr

/-- A character between single quotes. -/
def quoteCharacter (b : UInt8) : Bytes :=
  let inner :=
    if b = byte '\'' then bytes "\\'"
    else if b = byte '"' then [b]
    else Quoted.rune ⟨b.toNat, encodeRune b.toNat⟩
  byte '\'' :: inner ++ [byte '\'']

/-- The wording of a flag error. -/
def FlagError.message : FlagError → Bytes
  | .malformed argument => bytes "bad flag syntax: " ++ argument
  | .unknown name => bytes "unknown flag: --" ++ name
  | .unknownLetter letter letters =>
    bytes "unknown shorthand flag: " ++ quoteCharacter letter ++ bytes " in -" ++ letters
  | .noValue argument => bytes "flag needs an argument: " ++ argument
  | .noLetterValue letter letters =>
    bytes "flag needs an argument: " ++ quoteCharacter letter ++ bytes " in -" ++ letters
  | .badValue value label cause =>
    bytes "invalid argument " ++ quote value ++ bytes " for " ++ quote label ++ bytes " flag: " ++ cause

/-! ## §3 Reading a command line -/

/-- The values that flags were given, in order, and the arguments. -/
structure Settings where
  values : List (String × Flag.Value)
  arguments : List Bytes

namespace Settings

/-- Nothing set. -/
def empty : Settings := ⟨[], []⟩

/-- Adds a value. -/
def set (s : Settings) (f : Flag) (v : Flag.Value) : Settings :=
  { s with values := s.values ++ [(f.name, v)] }

/-- Adds arguments. -/
def push (s : Settings) (arguments : List Bytes) : Settings :=
  { s with arguments := s.arguments ++ arguments }

/-- Whether a flag was given. -/
def has (s : Settings) (name : String) : Bool := s.values.any fun v => v.1 == name

/-- The last value that a flag was given. -/
def last? (s : Settings) (name : String) : Option Flag.Value := s.values.reverse.lookup name

/-- The text that a flag was given. -/
def text? (s : Settings) (name : String) : Option Bytes :=
  match s.last? name with
  | some (.text t) => some t
  | _ => none

/-- The integer that a flag was given. -/
def integer? (s : Settings) (name : String) : Option Int :=
  match s.last? name with
  | some (.integer n) => some n
  | _ => none

/-- The truth value that a flag was given. -/
def truth? (s : Settings) (name : String) : Option Bool :=
  match s.last? name with
  | some (.truth b) => some b
  | _ => none

/-- Whether a switch is on. -/
def isOn (s : Settings) (name : String) : Bool := (s.truth? name).getD false

/-- The texts that a flag was given, of all its uses. -/
def texts (s : Settings) (name : String) : List Bytes :=
  s.values.flatMap fun v =>
    match v with
    | (n, .texts ts) => if n == name then ts else []
    | _ => []

/-- Reads a value and adds it. -/
def read (s : Settings) (f : Flag) (value : Bytes) : Except FlagError Settings :=
  match f.read value with
  | .ok v => .ok (s.set f v)
  | .error cause => .error (.badValue value f.label cause)

end Settings

/-- The flag with a name. -/
def flagNamed? (flags : List Flag) (name : Bytes) : Option Flag :=
  flags.find? fun f => bytes f.name == name

/-- The flag with a letter. -/
def flagLettered? (flags : List Flag) (letter : UInt8) : Option Flag :=
  flags.find? fun f => f.letter.any fun c => byte c == letter

/-- What remains after a flag: whether the next argument was taken as its value. -/
abbrev FlagStep := Except FlagError (Settings × Bool)

/-- Reads a flag by its name; `next` is the argument after it. -/
def readNamed (flags : List Flag) (s : Settings) (argument : Bytes) (next : Option Bytes) : FlagStep :=
  let body := argument.drop 2
  if body.isEmpty || body.head? == some (byte '-') || body.head? == some (byte '=') then
    .error (.malformed argument)
  else
    let name := body.takeWhile (· != byte '=')
    match flagNamed? flags name with
    | none => .error (.unknown name)
    | some f =>
      if name.length < body.length then (s.read f (body.drop (name.length + 1))).map (·, false)
      else if f.isSwitch then (s.read f (bytes "true")).map (·, false)
      else
        match next with
        | some value => (s.read f value).map (·, true)
        | none => .error (.noValue argument)

/-- Reads flags by their letters. -/
def readLetters (flags : List Flag) (next : Option Bytes) : Settings → Bytes → FlagStep
  | s, [] => .ok (s, false)
  | s, letter :: more =>
    if Bytes.dropPrefix? (bytes "test.") (letter :: more) != none then .ok (s, false)
    else
      match flagLettered? flags letter with
      | none => .error (.unknownLetter letter (letter :: more))
      | some f =>
        if more.head? == some (byte '=') && 1 < more.length then (s.read f (more.drop 1)).map (·, false)
        else if f.isSwitch then
          match s.read f (bytes "true") with
          | .ok s => readLetters flags next s more
          | .error e => .error e
        else if !more.isEmpty then (s.read f more).map (·, false)
        else
          match next with
          | some value => (s.read f value).map (·, true)
          | none => .error (.noLetterValue letter (letter :: more))

/-- Reads a command line after the settings so far; `taken` tells that the first argument was already
    taken as a value. -/
def readFlagsFrom (flags : List Flag) : Settings → Bool → List Bytes → Except FlagError Settings
  | s, _, [] => .ok s
  | s, true, _ :: rest => readFlagsFrom flags s false rest
  | s, false, argument :: rest =>
    if argument == bytes "--" then .ok (s.push rest)
    else if argument.head? != some (byte '-') || argument.length == 1 then
      readFlagsFrom flags (s.push [argument]) false rest
    else
      match (if (argument.drop 1).head? == some (byte '-') then readNamed flags s argument rest.head?
        else readLetters flags rest.head? s (argument.drop 1)) with
      | .error e => .error e
      | .ok (s, taken) => readFlagsFrom flags s taken rest

/-- The values and the arguments of a command line. -/
def readFlags (flags : List Flag) (line : List Bytes) : Except FlagError Settings :=
  readFlagsFrom flags .empty false line

end DocPages
