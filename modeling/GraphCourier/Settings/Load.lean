import GraphCourier.Settings.File
import GraphCourier.Text.Utf8

/-!
# Loading settings

Settings come from a file, if there is one, and four of them may be overridden
by environment variables. A variable that does not make sense is ignored, one
that does replaces exactly its setting.
-/

namespace GraphCourier

/-- Why a file could not be read as text. -/
inductive ReadFault where
  | isDirectory
  | denied
  | notText
deriving DecidableEq, Repr

def ReadFault.text : ReadFault → String
  | isDirectory => "Is a directory (os error 21)"
  | denied => "Permission denied (os error 13)"
  | notText => "stream did not contain valid UTF-8"

/-- What stands at the path of a settings file. -/
inductive FileState where
  | missing
  | closed (fault : ReadFault)
  | file (content : Bytes)
deriving DecidableEq, Repr

/-- Why settings could not be loaded. -/
inductive LoadError where
  | unreadable (path : String) (fault : ReadFault)
  | malformed
deriving DecidableEq, Repr

namespace LoadError

def message : LoadError → String
  | unreadable path _ => "failed to read config file " ++ path
  | malformed => "failed to parse config TOML"

/-- The text below that of the error, if it is told. -/
def cause? : LoadError → Option String
  | unreadable _ fault => some fault.text
  | malformed => none

end LoadError

/-! ## The environment -/

/-- The variables of the environment. Their values need not be text. -/
abbrev Environment := List (String × Bytes)

/-- The value of a variable, if it is set and is text. -/
def Environment.text? (env : Environment) (name : String) : Option String :=
  ((env.find? fun v => v.1 == name).map Prod.snd).bind textOf?

/-- A port as a variable gives it: digits, with an optional plus sign. -/
def portOfText? (s : String) : Option UInt16 :=
  (Decimal.read UInt16.size s.toList).map UInt16.ofNat

/-- The settings after the environment had its say. -/
def Settings.override (s : Settings) (env : Environment) : Settings where
  endpoint := { s.endpoint with
    host := (env.text? "GRAPH_DRIVER_HOST").getD s.endpoint.host
    port := ((env.text? "GRAPH_DRIVER_PORT").bind portOfText?).getD
      s.endpoint.port }
  run := { s.run with
    policy := ((env.text? "GRAPH_DRIVER_POLICY").bind
      FailurePolicy.ofText?).getD s.run.policy
    logLevel := (env.text? "GRAPH_DRIVER_LOG_LEVEL").getD s.run.logLevel }

/-! ## Loading -/

def readSettings (path : String) (file : FileState) :
    Except LoadError Settings :=
  match file with
  | .missing => .ok .standard
  | .closed fault => .error (.unreadable path fault)
  | .file content =>
    match textOf? content with
    | none => .error (.unreadable path .notText)
    | some text =>
      match SettingsFile.parse text with
      | some settings => .ok settings
      | none => .error .malformed

/-- The settings of a file, overridden by the environment. -/
def loadSettings (path : String) (file : FileState) (env : Environment) :
    Except LoadError Settings :=
  (readSettings path file).map (·.override env)

end GraphCourier
