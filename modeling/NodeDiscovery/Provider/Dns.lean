import NodeDiscovery.Provider.Basic
import NodeDiscovery.Provider.Options
import NodeDiscovery.Duration.Reader
import NodeDiscovery.Text.Quoted

/-! Addresses that a name server knows for a name. -/
namespace NodeDiscovery.Dns
open NodeDiscovery.Address (Ip V4)

def providerName : String := "dns"

def target : String := "discover-dns"

/-- A public name server. -/
def defaultServer : Ip := .v4 ⟨8, 8, 8, 8⟩

def defaultPort : UInt16 := 53

def defaultTimeout : Duration := .ofSeconds 5

def readPort (s : String) : Except String UInt16 :=
  match Text.readNumeral UInt16.size s.toList with
  | .ok n => .ok (UInt16.ofNat n)
  | .error fault => .error fault.message

def readTimeout (s : String) : Except String Duration :=
  (Duration.read s).mapError Duration.Fault.message

/-- The lookup a configuration asks for. -/
def lookup (c : Config) : Except ProviderError Lookup := do
  return {
    query := ← c.required "query"
    server := ← c.parsed "server" Ip.read defaultServer
    port := ← c.parsed "port" readPort defaultPort
    timeout := ← c.parsed "timeout" readTimeout defaultTimeout }

def find (_ : Option String) (world : World) (c : Config) :
    Call ProviderError (List String) := do
  Call.ofExcept (c.expectProvider providerName)
  let l ← Call.ofExcept (lookup c)
  Call.log .debug target <| "Using query=" ++ l.query ++ " server=" ++ l.server.text ++
    " port=" ++ toString l.port ++ " timeout=" ++ l.timeout.text
  Call.emit (.lookup l)
  let found ← (Call.ofExcept (resolve world.dns l.query)).mapError
    fun fault => .requestFailed ("Failed to process query: " ++ fault.message)
  let addresses := found.map V4.text
  Call.log .debug target ("found addrs " ++ Text.quotedList addresses)
  return addresses

def help : String :=
"DNS:

    provider: \"dns\"
    query:    The DNS query to lookup.  Required.
    server:   The DNS server to query.  Default \"8.8.8.8\" (Google DNS).
    port:     The DNS port to use.      Default: \"53\" (standard DNS port).
    timeout:  The DNS lookup timeout.   Default \"5s\" (five seconds).
"

def provider : Provider :=
  ⟨help, false, none, find⟩

end NodeDiscovery.Dns
