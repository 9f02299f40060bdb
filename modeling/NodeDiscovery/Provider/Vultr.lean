import NodeDiscovery.Http.Fetch
import NodeDiscovery.Json.Record
import NodeDiscovery.Listing
import NodeDiscovery.Provider.Basic
import NodeDiscovery.Provider.Options
import NodeDiscovery.Text.Quoted

/-! Internal addresses of the instances of Vultr, by tag. -/
namespace NodeDiscovery.Vultr

structure Instance where
  id : String
  label : String
  region : String
  /-- Empty if there is none. -/
  internalIp : String
deriving DecidableEq, Repr

/-- One page of instances, and the cursor of the next one, empty after the last. -/
structure Page where
  instances : List Instance
  next : String
deriving DecidableEq, Repr

def Instance.ofJson? (j : Json) : Option Instance := do
  let [id, label, region, internalIp] ← j.record? [("id", .required), ("label", .required),
    ("region", .required), ("internal_ip", .defaulted)] | none
  return ⟨← Json.present? Json.text? id, ← Json.present? Json.text? label,
    ← Json.present? Json.text? region, ← Json.orDefault? "" Json.text? internalIp⟩

def linksOfJson? (j : Json) : Option String := do
  let [next] ← j.record? [("next", .defaulted)] | none
  Json.orDefault? "" Json.text? next

def metaOfJson? (j : Json) : Option String := do
  let [links] ← j.record? [("links", .required)] | none
  Json.present? linksOfJson? links

def Page.ofJson? (j : Json) : Option Page := do
  let [instances, meta_] ← j.record? [("instances", .required), ("meta", .required)] | none
  return ⟨← Json.present? (Json.list? Instance.ofJson?) instances,
    ← Json.present? metaOfJson? meta_⟩

def providerName : String := "vultr"

def target : String := "discover-vultr"

def perPage : Nat := 500

/-- The query at a cursor. An empty tag selects everything, an empty cursor stands for the start. -/
def query (tag cursor : String) : List (String × String) :=
  ("per_page", toString perPage) :: [("tag", tag), ("cursor", cursor)].filter (·.2 ≠ "")

/-- Goes where each page says the next one is. -/
def listing (client : Http.Client) (tag : String) :
    Listing Http.Reply Http.Fault String Page where
  fetch cursor := Http.fetch Page.ofJson? (client.request "/v2/instances" (query tag cursor) none)
  next _ page := if page.next.isEmpty then none else some page.next
  spent := .notFound

/-- All instances with a tag. -/
def instances (client : Http.Client) (tag : String) (replies : List Http.Reply) :
    Call Http.Fault (List Instance) := do
  let client ← Call.ofExcept client.connect
  let (pages, _) ← (listing client tag).pages "" replies
  return pages.flatMap Page.instances

/-- Whether an instance is in the region, if one is given, and has an internal address. -/
def Instance.isWanted (region : String) (i : Instance) : Bool :=
  (region.isEmpty || i.region = region) && !i.internalIp.isEmpty

/-- Tells of the address of an instance. -/
def report {ε : Type} (i : Instance) : Call ε (List String) := do
  Call.log .info target
    s!"Found instance {i.label} ({i.id}) with private IP: {i.internalIp}"
  return [i.internalIp]

def find (baseUrl : String) (userAgent : Option String) (world : World) (c : Config) :
    Call ProviderError (List String) := do
  Call.ofExcept (c.expectProvider providerName)
  let region := c.getD "region"
  let tag := c.getD "tag_name"
  let token ← Call.ofExcept (c.apiToken world.env "VULTR_API_KEY")
  Call.log .debug target ("Using region=" ++ region ++ " tag_name=" ++ tag)
  let found ← (instances ⟨baseUrl, userAgent, token⟩ tag world.web).mapError
    fun fault => .requestFailed fault.message
  let addresses ← Call.gather report (found.filter (Instance.isWanted region))
  Call.log .debug target ("Found ip addresses: " ++ Text.quotedList addresses)
  return addresses

def help : String :=
"Vultr:

    provider:  \"vultr\"
    region:    The Vultr region to filter on
    tag_name:  The tag name to filter on
    api_token: The Vultr API Token to use, can also be provided by environment variable: VULTR_API_KEY
"

def defaultBaseUrl : String := "https://api.vultr.com"

def provider (baseUrl : String) : Provider :=
  ⟨help, true, none, find baseUrl⟩

end NodeDiscovery.Vultr
