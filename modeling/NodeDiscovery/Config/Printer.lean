import NodeDiscovery.Config.Basic
import NodeDiscovery.Config.Token

/-! The text of a configuration: its provider first, then the other options in ascending order. -/
namespace NodeDiscovery.Config

/-- The options in the order in which they are written. -/
def pairs (c : Config) : List (String × String) :=
  c.rows.filter (·.1 = providerKey) ++ c.rows.filter (·.1 ≠ providerKey)

def writePair (pair : String × String) : List Char :=
  writeToken pair.1.toList ++ '=' :: writeToken pair.2.toList

def writePairs (pairs : List (String × String)) : List Char :=
  [' '].intercalate (pairs.map writePair)

def render (c : Config) : String := String.ofList (writePairs c.pairs)

end NodeDiscovery.Config
