import DocPages.Text.Numeral

/-!
# Configuration

What a run needs to know: its inputs, where it writes, and how it reports.  Defaults are overridden by
variables of the environment.

## Main definitions

- `Config`
- `Environment`, `Config.ofEnvironment`
-/

namespace DocPages

/-- The settings of a run. -/
structure Config where
  scripts : List Bytes
  readme : Bytes
  output : Bytes
  template : Bytes
  sourceLinkPrefix : Bytes
  workers : Int
  verifyLinks : Bool
  logLevel : Bytes
  logFormat : Bytes
  address : Bytes
  deriving DecidableEq, Repr

/-- Variables with their values. -/
abbrev Environment := List (Bytes × Bytes)

namespace Environment

/-- The value of a variable; empty if it is not set. -/
def get (env : Environment) (name : String) : Bytes := (env.lookup (bytes name)).getD []

/-- The value of a variable, or another if it is empty. -/
def getOr (env : Environment) (name : String) (fallback : Bytes) : Bytes :=
  let value := env.get name
  if value.isEmpty then fallback else value

/-- The integer in a variable, or another if it holds none. -/
def getInteger (env : Environment) (name : String) (fallback : Int) : Int :=
  match Numeral.decimal (env.get name) with
  | .ok n => n
  | .error _ => fallback

/-- The truth value in a variable, or another if it holds none. -/
def getTruth (env : Environment) (name : String) (fallback : Bool) : Bool :=
  (Numeral.truth? (env.get name)).getD fallback

end Environment

/-- The names of the variables that settings are read from. -/
def settingVariables : List String :=
  ["FLAGDOC_TEMPLATE", "FLAGDOC_SOURCE_LINK_PREFIX", "FLAGDOC_WORKERS", "FLAGDOC_VERIFY_LINKS",
    "FLAGDOC_LOG_LEVEL", "FLAGDOC_LOG_FORMAT", "FLAGDOC_ADDR"]

namespace Config

/-- Settings that say nothing. -/
def empty : Config := ⟨[], [], [], [], [], 0, false, [], [], []⟩

/-- The number of pages that are written at once unless a setting says otherwise. -/
def defaultWorkers : Int := 8

/-- The address that the preview listens on unless a setting says otherwise. -/
def defaultAddress : Bytes := bytes ":8090"

/-- The defaults, overridden by the environment. -/
def ofEnvironment (env : Environment) : Config :=
  let workers := env.getInteger "FLAGDOC_WORKERS" defaultWorkers
  { empty with
    template := env.get "FLAGDOC_TEMPLATE"
    sourceLinkPrefix := env.get "FLAGDOC_SOURCE_LINK_PREFIX"
    workers := if workers ≤ 0 then defaultWorkers else workers
    verifyLinks := env.getTruth "FLAGDOC_VERIFY_LINKS" false
    logLevel := env.getOr "FLAGDOC_LOG_LEVEL" (bytes "info")
    logFormat := env.getOr "FLAGDOC_LOG_FORMAT" (bytes "text")
    address := env.getOr "FLAGDOC_ADDR" defaultAddress }

end Config

end DocPages
