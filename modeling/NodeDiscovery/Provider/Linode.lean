import NodeDiscovery.Address.V4
import NodeDiscovery.Http.Fetch
import NodeDiscovery.Json.Record
import NodeDiscovery.Json.Writer
import NodeDiscovery.Listing
import NodeDiscovery.Provider.Basic
import NodeDiscovery.Provider.Options
import NodeDiscovery.Text.Lines
import NodeDiscovery.Text.Quoted

/-! Addresses of the instances of Linode, by region and tag. The service selects by both; its
link-local addresses have to be asked for instance by instance. -/
namespace NodeDiscovery.Linode

structure Instance where
  id : UInt64
  label : String
  ipv4 : List String
  /-- A network, with its length after a slash. -/
  ipv6 : Option String
deriving DecidableEq, Repr

/-- One page of instances, its number and that of the last one. -/
structure Page where
  instances : List Instance
  page : UInt32
  pages : UInt32
deriving DecidableEq, Repr

def Instance.ofJson? (j : Json) : Option Instance := do
  let [id, label, ipv4, ipv6] ← j.record? [("id", .required), ("label", .required),
    ("ipv4", .defaulted), ("ipv6", .nullable)] | none
  return {
    id := ← Json.present? Json.word64? id
    label := ← Json.present? Json.text? label
    ipv4 := ← Json.orDefault? [] (Json.list? Json.text?) ipv4
    ipv6 := ← Json.orNothing? Json.text? ipv6 }

def Page.ofJson? (j : Json) : Option Page := do
  let [data, page, pages] ← j.record? [("data", .required), ("page", .required),
    ("pages", .required)] | none
  return ⟨← Json.present? (Json.list? Instance.ofJson?) data, ← Json.present? Json.word32? page,
    ← Json.present? Json.word32? pages⟩

def addressOfJson? (j : Json) : Option String := do
  let [address] ← j.record? [("address", .required)] | none
  Json.present? Json.text? address

def linkLocalOfJson? (j : Json) : Option (Option String) := do
  let [linkLocal] ← j.record? [("link_local", .nullable)] | none
  Json.orNothing? addressOfJson? linkLocal

/-- The link-local address among the addresses of an instance. -/
def ipsOfJson? (j : Json) : Option (Option String) := do
  let [ipv6] ← j.record? [("ipv6", .required)] | none
  Json.present? linkLocalOfJson? ipv6

def providerName : String := "linode"

def target : String := "discover-linode"

def pageSize : Nat := 500

/-- What the listing is restricted to; empty criteria are left out. -/
def instanceFilter (region tag : String) : String :=
  Json.writeObject ([("region", region), ("tags", tag)].filter (·.2 ≠ ""))

/-- Asks for the pages after the one that came, up to the last one it tells of. -/
def listing (client : Http.Client) (filter : String) :
    Listing Http.Reply Http.Fault UInt32 Page where
  fetch page := Http.fetch Page.ofJson? (client.request "/v4/linode/instances"
    [("page", toString page), ("page_size", toString pageSize)] (some filter))
  next _ page := if page.page < page.pages then some (page.page + 1) else none
  spent := .notFound

/-- All instances the filter selects, and the replies left for other requests. -/
def instances (client : Http.Client) (filter : String) (replies : List Http.Reply) :
    Call ProviderError (List Instance × List Http.Reply) := do
  let (pages, later) ← ((listing client filter).pages 1 replies).mapError fun fault =>
    .requestFailed <| "Fetching Linode instances failed: " ++
      (ProviderError.requestFailed fault.message).message
  return (pages.flatMap Page.instances, later)

/-- Asks for the link-local address of an instance. -/
def linkLocal (client : Http.Client) (id : UInt64) (reply : Http.Reply) :
    Call ProviderError (Option String) := do
  let path := s!"/v4/linode/instances/{id}/ips"
  let found ← (Http.fetch ipsOfJson? (client.request path [] none) reply).mapError fun fault =>
    .requestFailed <| s!"Fetching Linode IP address for instance {id} failed: " ++
      (ProviderError.requestFailed fault.message).message
  return found.filter (· ≠ "")

/-- Whether a text is the address of a private network. -/
def isPrivate (ip : String) : Bool := (Address.V4.ofText? ip).any Address.V4.isPrivate

/-- The addresses of a kind that the listing tells of. -/
def Instance.addresses (kind : AddressKind) (i : Instance) : List String :=
  match kind with
  | .publicV4 => i.ipv4.filter (!isPrivate ·)
  | .publicV6 =>
    (i.ipv6.toList.map fun ip => String.ofList (Text.before '/' ip.toList)).filter (· ≠ "")
  | .privateV4 | .privateV6 => i.ipv4.filter isPrivate

/-- Tells of the addresses found for an instance. -/
def report {ε : Type} (kind : AddressKind) (i : Instance) (addresses : List String) :
    Call ε (List String) :=
  Call.gather (fun address => do
    Call.log .info target
      s!"Found instance {i.label} ({i.id}) with {kind.name} IP: {address}"
    return [address]) addresses

/-- Asks instance by instance for the link-local addresses. -/
def linkLocals (client : Http.Client) : List Instance → List Http.Reply →
    Call ProviderError (List String)
  | [], _ => return []
  | i :: rest, replies => do
    let address ← linkLocal client i.id (replies.headD .notFound)
    let found ← report .privateV6 i address.toList
    let more ← linkLocals client rest replies.tail
    return found ++ more

def find (baseUrl : String) (userAgent : Option String) (world : World) (c : Config) :
    Call ProviderError (List String) := do
  Call.ofExcept (c.expectProvider providerName)
  let kind ← Call.ofExcept (c.parsed "address_type" AddressKind.read default)
  let region := c.getD "region"
  let tag := c.getD "tag_name"
  let token ← Call.ofExcept (c.apiToken world.env "LINODE_TOKEN")
  Call.log .debug target <|
    "Using address_type=" ++ kind.name ++ " region=" ++ region ++ " tag_name=" ++ tag
  let client ← (Call.ofExcept (Http.Client.connect ⟨baseUrl, userAgent, token⟩)).mapError
    fun fault => .requestFailed fault.message
  let (found, later) ← instances client (instanceFilter region tag) world.web
  let addresses ←
    if kind = .privateV6 then linkLocals client found later
    else Call.gather (fun i => report kind i (i.addresses kind)) found
  Call.log .debug target ("Found ip addresses: " ++ Text.quotedList addresses)
  return addresses

def help : String :=
"Linode:

    provider:     \"linode\"
    api_token:    The Linode API token to use
    region:       The Linode region to filter on
    tag_name:     The tag name to filter on
    address_type: \"private_v4\", \"public_v4\", \"private_v6\" or \"public_v6\". (default: \"private_v4\")

    Variables can also be provided by environment variables:
    export LINODE_TOKEN for api_token
"

def defaultBaseUrl : String := "https://api.linode.com"

def provider (baseUrl : String) : Provider :=
  ⟨help, true, none, find baseUrl⟩

end NodeDiscovery.Linode
