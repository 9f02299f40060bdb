import NodeDiscovery.Config.Basic
import NodeDiscovery.Dns.Resolver
import NodeDiscovery.Ec2.Request
import NodeDiscovery.Http.Request
import NodeDiscovery.Shell.Outcome

/-! What a call meets outside the program, and what it does there. -/
namespace NodeDiscovery

/-- Environment variables by name. -/
abbrev Environment := String → Option String

/-- The surroundings of a call. The n-th reply of a server is for the n-th request it gets; after
the last one it finds nothing any more. -/
structure World where
  env : Environment
  web : List Http.Reply
  ec2 : List Ec2.Reply
  dns : Dns.Server
  /-- How a command line ends, if it does within some time. -/
  shell : String → Duration → Option Shell.Outcome

/-- Something a call does that can be noticed outside. -/
inductive Event
  /-- A web server gets a request. -/
  | web (request : Http.Request)
  /-- The EC2 service gets a request. -/
  | ec2 (request : Ec2.Request)
  | lookup (lookup : Dns.Lookup)
  | command (line : String) (timeout : Duration)
  /-- A stub provider is asked. -/
  | stub (id : Nat) (config : Config) (userAgent : Option String)
deriving DecidableEq

end NodeDiscovery
