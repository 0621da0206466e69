import GraphCourier.Operation

/-!
# What can go wrong with one operation

An operation fails before it is sent, while it is sent, or when its answer is
read. Each failure has a one-line text.
-/

namespace GraphCourier

/-- Where an exchange with the service broke down. -/
inductive HttpFault where
  /-- The request could not be formed for this URL. -/
  | building
  /-- No answer came back. -/
  | sending
  /-- The body of an answer ended too early. -/
  | receiving
deriving DecidableEq, Repr

def HttpFault.text : HttpFault → String
  | building => "builder error"
  | sending => "error sending request"
  | receiving => "error decoding response body"

inductive ClientError where
  /-- The endpoint is not a valid URL. -/
  | invalidUrl (url reason : String)
  /-- The exchange broke down. -/
  | http (fault : HttpFault) (url : String)
  /-- The body of a successful answer does not have the expected form. -/
  | decode (operation : Operation) (detail : String)
deriving DecidableEq, Repr

namespace ClientError

def message : ClientError → String
  | invalidUrl url reason => "invalid endpoint URL '" ++ url ++ "': " ++ reason
  | http fault url =>
    "HTTP transport error: " ++ fault.text ++ " for url (" ++ url ++ ")"
  | decode operation detail =>
    "failed to decode response for " ++ operation.display ++ ": " ++ detail

end ClientError

end GraphCourier
