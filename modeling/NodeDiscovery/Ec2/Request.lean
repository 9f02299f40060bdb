import NodeDiscovery.Ec2.Region
import NodeDiscovery.Http.Header

/-! Listing the instances of EC2: what is asked, and what comes back. -/
namespace NodeDiscovery.Ec2

structure Interface where
  id : Option String
  /-- The addresses of version 6; the list, and each address in it, may be missing. -/
  ipv6 : Option (List (Option String))
deriving DecidableEq, Repr

structure Instance where
  id : Option String
  privateIp : Option String
  publicIp : Option String
  interfaces : Option (List Interface)
deriving DecidableEq, Repr

/-- Instances that were started together. -/
structure Reservation where
  id : Option String
  instances : Option (List Instance)
deriving DecidableEq, Repr

/-- One page of a listing; a nonempty token leads to the next. -/
structure Page where
  reservations : Option (List Reservation)
  nextToken : Option String
deriving DecidableEq, Repr

structure Credentials where
  accessKey : String
  secretKey : String
  sessionToken : Option String
deriving DecidableEq, Repr

/-- Whether the credentials can be sent. The secret key only signs. -/
def Credentials.isSendable (c : Credentials) : Bool :=
  Http.isHeaderText c.accessKey && c.sessionToken.all Http.isHeaderText

/-- A signed request with the parameters of its form. -/
structure Request where
  credentials : Credentials
  region : Region
  parameters : List (String × String)
deriving DecidableEq, Repr

/-- What becomes of a request. -/
inductive Reply
  /-- There is no server, so nobody gets the request. -/
  | unreachable
  /-- The server gets the request and closes the connection. -/
  | closed
  | page (page : Page)
  | response (status : Nat) (body : String)
deriving DecidableEq, Repr

inductive Fault
  | noCredentials
  /-- The credentials cannot be sent. -/
  | malformedHeader
  /-- The request was lost, or no answer came. -/
  | lost
  | refused (body : String)
  | undecodable
deriving DecidableEq, Repr

def Fault.message : Fault → String
  | noCredentials =>
    "Couldn't find AWS credentials in environment, credentials file, or IAM role."
  | malformedHeader => "error parsing header value: failed to parse header value"
  | lost => "Error during dispatch"
  | refused body => "Request ID: None Body: " ++ body
  | undecodable => "unexpected response body"

namespace Reply

/-- The reply of a server that has no more to say. -/
def notFound : Reply := response 404 ""

def isReceived : Reply → Bool
  | unreachable => false
  | _ => true

/-- The page a reply brings. A success without a body is an empty page. -/
def page? : Reply → Except Fault Page
  | unreachable | closed => .error .lost
  | page p => .ok p
  | response status body =>
    if 200 ≤ status && status < 300 then
      if body.isEmpty then .ok ⟨none, none⟩ else .error .undecodable
    else .error (.refused body)

end Reply

/-- The parameters that ask for the running instances with a tag, from the page of a token on. -/
def listingParameters (tagKey tagValue : String) (token : Option String) :
    List (String × String) :=
  [("Action", "DescribeInstances"), ("Filter.1.Name", "tag:" ++ tagKey),
    ("Filter.1.Value.1", tagValue), ("Filter.2.Name", "instance-state-name"),
    ("Filter.2.Value.1", "running")] ++
  (token.map fun t => ("NextToken", t)).toList ++ [("Version", "2016-11-15")]

end NodeDiscovery.Ec2
