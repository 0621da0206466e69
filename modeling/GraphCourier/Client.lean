import GraphCourier.ClientError
import GraphCourier.Settings.Endpoint
import GraphCourier.Url.Parse

/-!
# Clients

A `Client` is bound to one base URL. The name of an operation takes the place
of the last part of its path, so a base text that does not end in a slash gets
one first: then all of it stays in front of the names, unless it has a query or
a fragment to put the slash into.

- **an endpoint's base URL** already ends in a slash
  (`Endpoint.baseUrl`), so nothing is added to it.
-/

namespace GraphCourier

/-- Sends operations to endpoints under one base URL. -/
structure Client where
  baseUrl : Url
deriving DecidableEq, Repr

namespace Client

def withSlash (base : String) : String :=
  if base.toList.getLast? = some '/' then base else base ++ "/"

def ofBase (base : String) : Except ClientError Client :=
  match Url.parse (withSlash base) with
  | .ok url => .ok ⟨url⟩
  | .error fault => .error (.invalidUrl (withSlash base) fault.text)

def ofEndpoint (e : Endpoint) : Except ClientError Client := ofBase e.baseUrl

def endpoint (c : Client) (op : Operation) : Except ClientError Url :=
  match c.baseUrl.sibling op.name with
  | .ok url => .ok url
  | .error fault => .error (.invalidUrl (c.baseUrl.text ++ op.name) fault.text)

end Client

end GraphCourier
