import NodeDiscovery.Http.Fetch
import NodeDiscovery.Json.Record
import NodeDiscovery.Listing
import NodeDiscovery.Provider.Basic
import NodeDiscovery.Provider.Options
import NodeDiscovery.Text.Lines
import NodeDiscovery.Text.Quoted

/-! Addresses of the running servers of Hetzner Cloud, by label. -/
namespace NodeDiscovery.Hetzner

structure PublicIp where
  ip : String
  blocked : Bool
deriving DecidableEq, Repr

structure Server where
  id : UInt64
  name : String
  ipv4 : Option PublicIp
  /-- A network, with its length after a slash. -/
  ipv6 : Option PublicIp
  privateIps : List String
  location : String
deriving DecidableEq, Repr

/-- One page of servers, and the number of the next page. -/
structure Page where
  servers : List Server
  nextPage : Option UInt32
deriving DecidableEq, Repr

def PublicIp.ofJson? (j : Json) : Option PublicIp := do
  let [ip, blocked] ← j.record? [("ip", .required), ("blocked", .defaulted)] | none
  return ⟨← Json.present? Json.text? ip, ← Json.orDefault? false Json.bool? blocked⟩

def publicNetOfJson? (j : Json) : Option (Option PublicIp × Option PublicIp) := do
  let [ipv4, ipv6] ← j.record? [("ipv4", .nullable), ("ipv6", .nullable)] | none
  return (← Json.orNothing? PublicIp.ofJson? ipv4, ← Json.orNothing? PublicIp.ofJson? ipv6)

def privateIpOfJson? (j : Json) : Option String := do
  let [ip] ← j.record? [("ip", .required)] | none
  Json.present? Json.text? ip

def locationOfJson? (j : Json) : Option String := do
  let [name] ← j.record? [("name", .required)] | none
  Json.present? Json.text? name

def datacenterOfJson? (j : Json) : Option String := do
  let [location] ← j.record? [("location", .required)] | none
  Json.present? locationOfJson? location

def Server.ofJson? (j : Json) : Option Server := do
  let [id, name, publicNet, privateNet, datacenter] ← j.record? [("id", .required),
    ("name", .required), ("public_net", .required), ("private_net", .defaulted),
    ("datacenter", .required)] | none
  let (ipv4, ipv6) ← Json.present? publicNetOfJson? publicNet
  return {
    id := ← Json.present? Json.word64? id
    name := ← Json.present? Json.text? name
    ipv4
    ipv6
    privateIps := ← Json.orDefault? [] (Json.list? privateIpOfJson?) privateNet
    location := ← Json.present? datacenterOfJson? datacenter }

def paginationOfJson? (j : Json) : Option (Option UInt32) := do
  let [next] ← j.record? [("next_page", .nullable)] | none
  Json.orNothing? Json.word32? next

def metaOfJson? (j : Json) : Option (Option UInt32) := do
  let [pagination] ← j.record? [("pagination", .required)] | none
  Json.present? paginationOfJson? pagination

def Page.ofJson? (j : Json) : Option Page := do
  let [servers, meta_] ← j.record? [("servers", .required), ("meta", .required)] | none
  return ⟨← Json.present? (Json.list? Server.ofJson?) servers,
    ← Json.present? metaOfJson? meta_⟩

def providerName : String := "hcloud"

def target : String := "discover-hcloud"

def perPage : Nat := 50

/-- The query for a page; an empty selector selects everything. -/
def query (selector : String) (page : UInt32) : List (String × String) :=
  [("status", "running"), ("page", toString page), ("per_page", toString perPage)] ++
    if selector.isEmpty then [] else [("label_selector", selector)]

/-- Goes where each page says the next one is. -/
def listing (client : Http.Client) (selector : String) :
    Listing Http.Reply Http.Fault UInt32 Page where
  fetch page := Http.fetch Page.ofJson? (client.request "/v1/servers" (query selector page) none)
  next _ page := page.nextPage
  spent := .notFound

/-- All running servers with the labels. -/
def servers (client : Http.Client) (selector : String) (replies : List Http.Reply) :
    Call Http.Fault (List Server) := do
  let client ← Call.ofExcept client.connect
  let (pages, _) ← (listing client selector).pages 1 replies
  return pages.flatMap Page.servers

/-- The address of an entry that is there and not blocked. -/
def usable (ip : Option PublicIp) : Option String := (ip.filter (!·.blocked)).map PublicIp.ip

/-- The address of a kind. Of private networks the first one counts; of a public network of version
6 the address before the slash. -/
def Server.address? (kind : AddressKind) (s : Server) : Option String :=
  match kind with
  | .publicV4 => usable s.ipv4
  | .publicV6 => (usable s.ipv6).map fun ip => String.ofList (Text.before '/' ip.toList)
  | .privateV4 | .privateV6 => s.privateIps.head?

/-- Tells of the address of a server, or that it has none. -/
def report {ε : Type} (kind : AddressKind) (s : Server) : Call ε (List String) := do
  let who := s!"instance {s.name} ({s.id})"
  match s.address? kind with
  | some ip =>
    Call.log .info target s!"{who} has {kind.name} IP {ip}"
    return [ip]
  | none =>
    Call.log .debug target s!"{who} has no valid associated IP address"
    return []

/-- The kind of address asked for. Where none is given, or none that a server has, private addresses
of version 4 are taken, and the log says so. -/
def addressKind {ε : Type} (c : Config) : Call ε AddressKind :=
  match c.nonempty? "address_type" with
  | none => do
    Call.log .info target "address type not provided, using 'private_v4'"
    return .privateV4
  | some value =>
    match AddressKind.ofName? value with
    | none | some .privateV6 => do
      Call.log .warn target <|
        s!"address_type {value} is invalid, falling back to 'private_v4'. " ++
        "valid values are: private_v4, public_v4, public_v6"
      return .privateV4
    | some kind => return kind

def find (baseUrl : String) (userAgent : Option String) (world : World) (c : Config) :
    Call ProviderError (List String) := do
  Call.ofExcept (c.expectProvider providerName)
  let selector := c.getD "label_selector"
  let location := c.nonempty? "location"
  let kind ← addressKind c
  let token ← Call.ofExcept (c.apiToken world.env "HCLOUD_TOKEN")
  Call.log .debug target <| "using address_type=" ++ kind.name ++ " label_selector=" ++ selector ++
    " location=" ++ location.getD ""
  let found ← (servers ⟨baseUrl, userAgent, token⟩ selector world.web).mapError
    fun fault => .requestFailed fault.message
  let addresses ← Call.gather (report kind)
    (found.filter fun s => location.all (s.location = ·))
  Call.log .debug target ("found IP addresses: " ++ Text.quotedList addresses)
  return addresses

def help : String :=
"Hetzner Cloud:

    provider:       \"hcloud\"
    location:       The Hetzner Cloud datacenter location to filter by (eg. \"fsn1\")
    label_selector: The label selector to filter by
    address_type:   \"private_v4\", \"public_v4\" or \"public_v6\", defaults to \"private_v4\". In the case of private networks, the first one will be used
    api_token:      The Hetzner Cloud API token to use, can also be provided by environment variable: HCLOUD_TOKEN

    Servers whose primary public IP is blocked are skipped for public address types;
    floating IPs are not considered.
"

def defaultBaseUrl : String := "https://api.hetzner.cloud"

def provider (baseUrl : String) : Provider :=
  ⟨help, true, none, find baseUrl⟩

end NodeDiscovery.Hetzner
