import NodeDiscovery.Listing
import NodeDiscovery.Provider.Basic
import NodeDiscovery.Provider.Options
import NodeDiscovery.Text.Quoted

/-! Addresses of the running instances of EC2, by tag. -/
namespace NodeDiscovery.Ec2

def providerName : String := "aws"

def target : String := "discover-aws"

/-- What to look for, and where. -/
structure Query where
  tagKey : String
  tagValue : String
  kind : AddressKind
  region : Region
deriving DecidableEq, Repr

/-- The kind of address asked for. An instance tells of no private addresses of version 6. -/
def addressKind (c : Config) : Except ProviderError AddressKind := do
  match ← c.parsed "addr_type" AddressKind.read default with
  | .privateV6 =>
    .error (.malformedArgument ("addr_type=" ++ AddressKind.privateV6.name)
      "Valid values are private_v4, public_v4 or public_v6")
  | kind => return kind

/-- The region asked for, or else that of the environment. -/
def region (c : Config) (env : Environment) : Call ProviderError Region :=
  match c.nonempty? "region" with
  | some value =>
    match Region.ofText? value with
    | some region => return region
    | none => Call.fail (.malformedArgument ("region=" ++ value)
        "The value is not a valid AWS Region")
  | none => do
    Call.log .info target "Region not provided. Using the region of the environment"
    return Region.ofEnvironment env

def query (c : Config) (env : Environment) : Call ProviderError Query := do
  let tagKey ← Call.ofExcept (c.required "tag_key")
  let tagValue ← Call.ofExcept (c.required "tag_value")
  let kind ← Call.ofExcept (addressKind c)
  let region ← region c env
  match c.nonempty? "endpoint" with
  | some endpoint => Call.log .info target ("Endpoint is " ++ endpoint)
  | none => pure ()
  return ⟨tagKey, tagValue, kind, region.reachedAt (c.nonempty? "endpoint")⟩

/-- Credentials from the environment. -/
def environmentCredentials? (env : Environment) : Option Credentials := do
  let nonempty variable_ := (env variable_).filter (· ≠ "")
  return ⟨← nonempty "AWS_ACCESS_KEY_ID", ← nonempty "AWS_SECRET_ACCESS_KEY",
    nonempty "AWS_SESSION_TOKEN"⟩

/-- The credentials to sign requests with. Those of the configuration need both keys. -/
def credentials {ε : Type} (c : Config) (env : Environment) : Call ε (Option Credentials) :=
  match c.nonempty? "access_key_id", c.nonempty? "secret_access_key" with
  | some accessKey, some secretKey => do
    Call.log .debug target "Static credentials provided"
    return some ⟨accessKey, secretKey, c.nonempty? "session_token"⟩
  | _, _ => do
    Call.log .debug target "Using environment variables, shared credentials or instance role"
    return environmentCredentials? env

/-- Asks for the page of a token. Without credentials that can be sent nothing is sent. -/
def fetch (credentials : Option Credentials) (q : Query) (token : Option String) (reply : Reply) :
    Call Fault Page :=
  match credentials with
  | none => Call.fail .noCredentials
  | some credentials => do
    if !credentials.isSendable then Call.fail .malformedHeader
    if reply.isReceived then
      Call.emit (.ec2 ⟨credentials, q.region, listingParameters q.tagKey q.tagValue token⟩)
    Call.ofExcept reply.page?

/-- Goes on with the token of each page. -/
def listing (credentials : Option Credentials) (q : Query) :
    Listing Reply Fault (Option String) Page where
  fetch := fetch credentials q
  next _ page := (page.nextToken.filter (· ≠ "")).map some
  spent := .notFound

/-- All reservations that hold instances looked for. -/
def reservations (credentials : Option Credentials) (q : Query) (replies : List Reply) :
    Call Fault (List Reservation) := do
  let (pages, _) ← (listing credentials q).pages none replies
  return pages.flatMap fun page => page.reservations.getD []

/-- Tells of the one address an instance has, or of its absence. -/
def reportAddress {ε : Type} (id adjective : String) : Option String → Call ε (List String)
  | some address => do
    Call.log .info target s!"Instance {id} has {adjective} ip {address}"
    return [address]
  | none => do
    Call.log .debug target s!"Instance {id} has no {adjective} ip"
    return []

/-- Tells of the addresses of version 6 at an interface of an instance. -/
def reportInterface {ε : Type} (id : String) (i : Interface) : Call ε (List String) :=
  let place := "NetworkInterfaceId " ++ i.id.getD ""
  match i.ipv6 with
  | none => do
    Call.log .debug target s!"Instance {id} has no IPv6 on {place}"
    return []
  | some addresses =>
    Call.gather (fun address => do
      Call.log .info target s!"Instance {id} has IPv6 {address} on {place}"
      return [address]) (addresses.filterMap fun address => address)

/-- Tells of the addresses of a kind that an instance has. -/
def reportInstance {ε : Type} (kind : AddressKind) (i : Instance) : Call ε (List String) := do
  let id := i.id.getD ""
  Call.log .debug target ("Found instance " ++ id)
  match kind with
  | .publicV4 => reportAddress id "public" i.publicIp
  | .publicV6 =>
    let interfaces := i.interfaces.getD []
    Call.log .debug target s!"Instance {id} has {interfaces.length} network interfaces"
    Call.gather (reportInterface id) interfaces
  | .privateV4 | .privateV6 => reportAddress id "private" i.privateIp

/-- Tells of the instances of a reservation one after the other. -/
def reportReservation {ε : Type} (kind : AddressKind) (r : Reservation) :
    Call ε (List String) := do
  let instances := r.instances.getD []
  let id := r.id.getD ""
  Call.log .debug target s!"Reservation {id} has {instances.length} instances"
  Call.gather (reportInstance kind) instances

def find (_ : Option String) (world : World) (c : Config) :
    Call ProviderError (List String) := do
  Call.ofExcept (c.expectProvider providerName)
  let q ← query c world.env
  Call.log .info target s!"Filter instances with {q.tagKey}={q.tagValue}"
  let credentials ← credentials c world.env
  Call.log .debug target <| "Using region=" ++ q.region.name ++ " tag_key=" ++ q.tagKey ++
    " tag_value=" ++ q.tagValue ++ " addr_type=" ++ q.kind.name
  let found ← (reservations credentials q world.ec2).mapError
    fun fault => .requestFailed ("DescribeInstances failed: " ++ fault.message)
  Call.log .debug target s!"Found {found.length} reservations"
  let addresses ← Call.gather (reportReservation q.kind) found
  Call.log .debug target ("Found ip addresses: " ++ Text.quotedList addresses)
  return addresses

def help : String :=
"Amazon AWS:

    provider:          \"aws\"
    region:            The AWS region. Default to region of instance.
    tag_key:           The tag key to filter on
    tag_value:         The tag value to filter on
    addr_type:         \"private_v4\", \"public_v4\" or \"public_v6\". Defaults to \"private_v4\".
    access_key_id:     The AWS access key to use
    secret_access_key: The AWS secret access key to use
    session_token:     The AWS session token to use with temporary credentials
    endpoint:          The endpoint URL of EC2 to use. If not set the AWS client will set
                       this value, which defaults to the ec2 public dns for the specified
                       region

    The only required IAM permission is 'ec2:DescribeInstances'. If the agent is
    running on AWS instance it is recommended you use an IAM role, otherwise it is
    recommended you make a dedicated IAM user and access key used only for auto-joining.
"

def provider : Provider :=
  ⟨help, false, none, find⟩

end NodeDiscovery.Ec2
