import NodeDiscovery.Http.Header
import NodeDiscovery.Http.Status
import NodeDiscovery.Http.Url

/-! Requests to a web service, what a server makes of them, and what can go wrong. -/
namespace NodeDiscovery.Http

/-- A request to read a resource. -/
structure Request where
  url : Url
  authorization : String
  userAgent : Option String
  /-- The header `X-Filter`, which selects what is listed. -/
  filter : Option String
deriving DecidableEq, Repr

/-- Why a request has no usable answer. -/
inductive Fault
  | malformedHeader
  | malformedUrl (fault : Url.Fault)
  /-- The request was lost, or no answer came. -/
  | lost (url : String)
  | status (code : Nat) (url : String)
  | undecodable
deriving DecidableEq, Repr

def Host.Fault.message : Host.Fault → String
  | empty => "empty host"
  | malformedName => "invalid international domain name"
  | malformedV4 => "invalid IPv4 address"
  | malformedV6 => "invalid IPv6 address"
  | forbiddenCharacter => "invalid domain character"

def Url.Fault.message : Url.Fault → String
  | relative => "builder error: relative URL without a base"
  | host fault => "builder error: " ++ fault.message
  | invalidPort => "builder error: invalid port number"
  | unsupportedScheme address =>
    "builder error for url (" ++ address ++ "): URL scheme is not allowed"
  | unsendable address =>
    "builder error for url (" ++ address ++ "): Parsed Url is not a valid Uri"

def Fault.message : Fault → String
  | malformedHeader => "builder error: failed to parse header value"
  | malformedUrl fault => fault.message
  | lost url => "error sending request for url (" ++ url ++ ")"
  | status code url =>
    (if Status.isClientError code then "HTTP status client error ("
      else "HTTP status server error (") ++ Status.describe code ++ ") for url (" ++ url ++ ")"
  | undecodable => "error decoding response body"

/-- Who sends the requests of a call, and where to. -/
structure Client where
  baseUrl : String
  userAgent : Option String
  token : String
deriving DecidableEq, Repr

/-- The client, if its user agent can be sent. -/
def Client.connect (client : Client) : Except Fault Client :=
  if client.userAgent.all isHeaderText then .ok client else .error .malformedHeader

/-- The request for a path below the base address. An address without a host is refused before the
query is added. -/
def Client.request (client : Client) (path : String) (query : List (String × String))
    (filter : Option String) : Except Fault Request := do
  let url ← (Url.parse (client.baseUrl ++ path)).mapError .malformedUrl
  if !url.hasHost then throw (.malformedUrl (.unsupportedScheme url.text))
  let url := if query.isEmpty then url else url.addQuery query
  if !filter.all isHeaderText || !isHeaderText client.token then throw .malformedHeader
  let url ← url.sendable.mapError .malformedUrl
  return ⟨url, "Bearer " ++ client.token, client.userAgent, filter⟩

/-- What becomes of a request. -/
inductive Reply
  /-- There is no server, so nobody gets the request. -/
  | unreachable
  /-- The server gets the request and closes the connection. -/
  | closed
  /-- The final response. Its status is meant to be one from 200 to 999: interim ones below 200 are
  passed over on the connection and never come as a reply. Of its headers nothing is kept, so a
  redirection is one without `Location`, which leads to no other request. -/
  | response (status : Nat) (body : String)
deriving DecidableEq, Repr

namespace Reply

/-- The reply of a server that has no more to say. -/
def notFound : Reply := response 404 ""

def isReceived : Reply → Bool
  | unreachable => false
  | _ => true

/-- The body of a response, unless its status tells of an error. -/
def body (url : String) : Reply → Except Fault String
  | unreachable | closed => .error (.lost url)
  | response status body =>
    if Status.isClientError status || Status.isServerError status then .error (.status status url)
    else .ok (if Status.hasBody status then body else "")

end Reply
end NodeDiscovery.Http
