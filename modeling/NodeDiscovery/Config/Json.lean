import NodeDiscovery.Config.Basic
import NodeDiscovery.Json.Parser
import NodeDiscovery.Json.Writer

/-! A configuration as a JSON object of texts. -/
namespace NodeDiscovery.Config

/-- The object of the options in ascending order; the provider has no place of its own in it. -/
def toJson (c : Config) : String := Json.writeObject c.rows

/-- A member whose name and value are texts. -/
def option? : Option String × Json → Option (String × String)
  | (some key, .text (some value)) => some (key, value)
  | _ => none

/-- The configuration that an object of texts stands for; of equal names the last one counts. -/
def ofJson? (s : String) : Option Config :=
  match Json.parse? s with
  | some (.object members) => (members.mapM option?).map Table.ofList
  | _ => none

end NodeDiscovery.Config
