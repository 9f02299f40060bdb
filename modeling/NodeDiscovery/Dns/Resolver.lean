import NodeDiscovery.Address.V6
import NodeDiscovery.Dns.Name
import NodeDiscovery.Duration.Basic

/-! Looking up the addresses of a name at one server. -/
namespace NodeDiscovery.Dns
open NodeDiscovery.Address (Ip V4)

/-- A question and whom to ask. -/
structure Lookup where
  query : String
  server : Ip
  port : UInt16
  timeout : Duration
deriving DecidableEq

/-- What a server says about a name. -/
inductive Answer
  | addresses (found : List V4)
  /-- The name stands for another one. -/
  | alias (target : String)
  /-- There are no addresses, for whatever reason. -/
  | nothing
  /-- The server keeps silent. -/
  | silence
deriving DecidableEq, Repr

inductive Server
  | unreachable
  /-- A server that answers for these names, each in lower case with its final dot. -/
  | zone (answers : List (String × Answer))
deriving DecidableEq, Repr

inductive Fault
  | malformedName
  | unreachable
  | timedOut
deriving DecidableEq, Repr

def Fault.message : Fault → String
  | malformedName | unreachable => "proto error"
  | timedOut => "request timed out"

/-- The loopback address. -/
def loopback : V4 := ⟨127, 0, 0, 1⟩

/-- The answers known without asking: the names of the loopback interface, and the domains set aside
to be empty. -/
def known? (n : Name) : Option (List V4) :=
  if n.isWithin ["localhost"] || n.isWithin ["127", "in-addr", "arpa"] ||
      n.isWithin ("1" :: List.replicate 31 "0" ++ ["ip6", "arpa"]) then some [loopback]
  else if n.isWithin ["invalid"] || n.isWithin ["onion"] then some []
  else none

/-- Asks for a name and for the names it stands for in turn, at most `aliases` of them. -/
def ask (server : Server) (aliases : Nat) (n : Name) : Except Fault (List V4) :=
  match known? n, server with
  | some found, _ => .ok found
  | none, .unreachable => .error .unreachable
  | none, .zone answers =>
    match answers.lookup n.text, aliases with
    | some (.addresses found), _ => .ok found
    | some .silence, _ => .error .timedOut
    | some (.alias target), aliases + 1 =>
      match Name.ofText? target with
      | some n => ask server aliases n
      | none => .error .malformedName
    | _, _ => .ok []

/-- Longer chains of aliases lead nowhere. -/
def maxAliases : Nat := 8

/-- The addresses of a name; that there are none is no fault. -/
def resolve (server : Server) (query : String) : Except Fault (List V4) :=
  match Name.ofText? query with
  | some n => ask server maxAliases n
  | none => .error .malformedName

end NodeDiscovery.Dns
