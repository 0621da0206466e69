import GraphCourier.Settings.Endpoint
import GraphCourier.Toml.Document

/-!
# Settings files

A settings file is a TOML document with the tables `endpoint` and `driver`.
What it does not mention keeps its standard value, and what is not known here
is passed over; but a known setting with a value of the wrong kind or out of
range makes the whole file invalid. A group of settings may also be written as
a list of its values in order.
-/

namespace GraphCourier.SettingsFile

open Toml (Value Members)

/-! ## Groups -/

/-- A group of settings, by name or by position. -/
inductive Group where
  | named (members : Members)
  | row (items : List Value)

namespace Group

/-- The group that a value stands for. A date stands for a group in which
nothing is known. -/
def ofValue? : Value → Option Group
  | .table _ members => some (named members)
  | .list items => some (row items)
  | .tables latest earlier =>
    some (row ((latest :: earlier).reverse.map (.table .header)))
  | .moment _ => some (named [])
  | _ => none

def get? (group : Group) (index : Nat) (name : String) : Option Value :=
  match group with
  | named members => members.get? name
  | row items => items[index]?

/-- Reads a setting, or takes the standard value if it is not there. -/
def read {α : Type} (group : Group) (index : Nat) (name : String)
    (read? : Value → Option α) (standard : α) : Option α :=
  match group.get? index name with
  | some v => read? v
  | none => some standard

end Group

/-! ## Single settings -/

def text? : Value → Option String
  | .text s => some s
  | _ => none

/-- A whole number below `bound`. -/
def natural? (bound : Nat) : Value → Option Nat
  | .integer n =>
    if 0 ≤ n ∧ n.toNat < bound then some n.toNat else none
  | _ => none

def port? (v : Value) : Option UInt16 :=
  (natural? UInt16.size v).map UInt16.ofNat

def nodes? (v : Value) : Option NodeId :=
  (natural? UInt64.size v).map UInt64.ofNat

def isEmpty : Value → Bool
  | .table _ [] => true
  | .list [] => true
  | _ => false

/-- A failure policy: its name, or a table whose only key is its name and holds
nothing. -/
def policy? : Value → Option FailurePolicy
  | .text s => FailurePolicy.ofDocumentName? s
  | .table _ [(name, v)] =>
    if isEmpty v then FailurePolicy.ofDocumentName? name else none
  | _ => none

/-! ## All settings -/

def endpoint? (v : Value) : Option Endpoint := do
  let group ← Group.ofValue? v
  let standard := Endpoint.standard
  return {
    scheme := ← group.read 0 "scheme" text? standard.scheme
    host := ← group.read 1 "host" text? standard.host
    port := ← group.read 2 "port" port? standard.port
    apiPrefix := ← group.read 3 "api_prefix" text? standard.apiPrefix }

def run? (v : Value) : Option RunSettings := do
  let group ← Group.ofValue? v
  let standard := RunSettings.standard
  return {
    nodes := ← group.read 0 "nodes" nodes? standard.nodes
    policy := ← group.read 1 "failure_policy" policy? standard.policy
    logLevel := ← group.read 2 "log_level" text? standard.logLevel }

def parse (s : String) : Option Settings := do
  let group := Group.named (← Toml.parse s)
  let standard := Settings.standard
  return {
    endpoint := ← group.read 0 "endpoint" endpoint? standard.endpoint
    run := ← group.read 1 "driver" run? standard.run }

end GraphCourier.SettingsFile
