import GraphCourier.FailurePolicy
import GraphCourier.Operation

/-!
# Settings

Where the graph service is, and how a run goes about its work. `Settings` are
complete: whatever nobody sets has a standard value.

- **the base URL** (`Endpoint.baseUrl`) is scheme, host and port, then the API
  prefix without the slashes around it, then a slash.
-/

namespace GraphCourier

/-- Where the graph service is. -/
structure Endpoint where
  scheme : String
  host : String
  port : UInt16
  apiPrefix : String
deriving DecidableEq, Repr

namespace Endpoint

def standard : Endpoint := ⟨"http", "127.0.0.1", 8000, "api/v1"⟩

def trimSlashes (s : String) : String :=
  let rest := s.toList.dropWhile (· == '/')
  String.ofList (rest.reverse.dropWhile (· == '/')).reverse

def baseUrl (e : Endpoint) : String :=
  let inner := trimSlashes e.apiPrefix
  e.scheme ++ "://" ++ e.host ++ ":" ++ Decimal.text e.port.toNat ++ "/" ++
    if inner.isEmpty then "" else inner ++ "/"

end Endpoint

/-- How a run goes about its work. -/
structure RunSettings where
  /-- The number of nodes of the complete graph. -/
  nodes : NodeId
  policy : FailurePolicy
  /-- Which log lines are wanted. -/
  logLevel : String
deriving DecidableEq, Repr

def RunSettings.standard : RunSettings := ⟨20, .standard, "info"⟩

structure Settings where
  endpoint : Endpoint
  run : RunSettings
deriving DecidableEq, Repr

def Settings.standard : Settings := ⟨.standard, .standard⟩

end GraphCourier
