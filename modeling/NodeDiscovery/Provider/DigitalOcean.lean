import NodeDiscovery.Http.Fetch
import NodeDiscovery.Json.Record
import NodeDiscovery.Listing
import NodeDiscovery.Provider.Basic
import NodeDiscovery.Provider.Options
import NodeDiscovery.Text.Lines
import NodeDiscovery.Text.Quoted

/-! Private addresses of the droplets of DigitalOcean, by tag. The service selects by one tag, the
others are checked here. -/
namespace NodeDiscovery.DigitalOcean

structure Network where
  address : String
  kind : String
deriving DecidableEq, Repr

structure Droplet where
  id : UInt64
  name : String
  networks : List Network
  region : String
  tags : List String
deriving DecidableEq, Repr

def Network.ofJson? (j : Json) : Option Network := do
  let [address, kind] ← j.record? [("ip_address", .required), ("type", .required)] | none
  return ⟨← Json.present? Json.text? address, ← Json.present? Json.text? kind⟩

/-- The networks of version 4. -/
def networksOfJson? (j : Json) : Option (List Network) := do
  let [v4] ← j.record? [("v4", .defaulted)] | none
  Json.orDefault? [] (Json.list? Network.ofJson?) v4

def regionOfJson? (j : Json) : Option String := do
  let [slug] ← j.record? [("slug", .required)] | none
  Json.present? Json.text? slug

def Droplet.ofJson? (j : Json) : Option Droplet := do
  let [id, name, networks, region, tags] ← j.record? [("id", .required), ("name", .required),
    ("networks", .required), ("region", .required), ("tags", .defaulted)] | none
  return {
    id := ← Json.present? Json.word64? id
    name := ← Json.present? Json.text? name
    networks := ← Json.present? networksOfJson? networks
    region := ← Json.present? regionOfJson? region
    tags := ← Json.orDefault? [] (Json.list? Json.text?) tags }

/-- The droplets of one page. -/
def pageOfJson? (j : Json) : Option (List Droplet) := do
  let [droplets] ← j.record? [("droplets", .required)] | none
  Json.present? (Json.list? Droplet.ofJson?) droplets

def providerName : String := "digitalocean"

def target : String := "discover-digitalocean"

def perPage : Nat := 200

/-- Asks for page after page until one is not full. Pages are counted in 32 bits. -/
def listing (client : Http.Client) (tag : String) :
    Listing Http.Reply Http.Fault Int32 (List Droplet) where
  fetch page := Http.fetch pageOfJson? (client.request "/v2/droplets"
    [("page", toString page), ("per_page", toString perPage), ("tag_name", tag)] none)
  next page droplets := if droplets.length < perPage then none else some (page + 1)
  spent := .notFound

/-- All droplets with a tag. -/
def droplets (client : Http.Client) (tag : String) (replies : List Http.Reply) :
    Call Http.Fault (List Droplet) := do
  let client ← Call.ofExcept client.connect
  let (pages, _) ← (listing client tag).pages 1 replies
  return pages.flatten

/-- The tags in a list with commas. -/
def splitTags (s : String) : List String :=
  ((Text.splitAt ',' s.toList).map Text.trim |>.filter (· ≠ [])).map String.ofList

/-- The tags a droplet has to carry, of which there is at least one. A list of tags wins over the
option for a single one. -/
def tags (c : Config) : Except ProviderError (String × List String) :=
  let tags := match c.get? "tag_names" with
    | some names => splitTags names
    | none => (c.nonempty? "tag_name").toList
  match tags with
  | [] => .error (.missingArgument "tag_name")
  | first :: rest => .ok (first, rest)

/-- Whether a droplet is in the region, if one is given, and carries all the tags. -/
def Droplet.isWanted (region : Option String) (tags : List String) (d : Droplet) : Bool :=
  region.all (d.region = ·) && tags.all (· ∈ d.tags)

def Droplet.privateAddresses (d : Droplet) : List String :=
  (d.networks.filter (·.kind = "private")).map Network.address

/-- Tells of every private address of a droplet. -/
def report {ε : Type} (d : Droplet) : Call ε (List String) :=
  Call.gather (fun address => do
    Call.log .info target
      s!"Found instance {d.name} ({d.id}) with private IP: {address}"
    return [address]) d.privateAddresses

def find (baseUrl : String) (userAgent : Option String) (world : World) (c : Config) :
    Call ProviderError (List String) := do
  Call.ofExcept (c.expectProvider providerName)
  let region := c.nonempty? "region"
  let (first, rest) ← Call.ofExcept (tags c)
  let token ← Call.ofExcept (c.apiToken world.env "DIGITALOCEAN_TOKEN")
  Call.log .debug target <|
    "Using region=" ++ region.getD "" ++ " tag_names=" ++ ",".intercalate (first :: rest)
  let found ← (droplets ⟨baseUrl, userAgent, token⟩ first world.web).mapError
    fun fault => .requestFailed fault.message
  Call.log .debug target s!"Found {found.length} droplets"
  let addresses ← Call.gather report (found.filter (Droplet.isWanted region (first :: rest)))
  Call.log .debug target ("Found ip addresses: " ++ Text.quotedList addresses)
  return addresses

def help : String :=
"DigitalOcean:

    provider:  \"digitalocean\"
    region:    The DigitalOcean region to filter on
    tag_name:  The tag name to filter on
    tag_names: A comma separated list of tag names; droplets must carry all of them
    api_token: The DigitalOcean API token to use

    The api_token can also be provided by the DIGITALOCEAN_TOKEN environment variable.
"

def defaultBaseUrl : String := "https://api.digitalocean.com"

def provider (baseUrl : String) : Provider :=
  ⟨help, true, none, find baseUrl⟩

end NodeDiscovery.DigitalOcean
