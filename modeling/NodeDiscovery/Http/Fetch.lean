import NodeDiscovery.Call
import NodeDiscovery.Json.Parser

/-! Asking a web service for a JSON document. -/
namespace NodeDiscovery.Http

/-- Sends a request and reads the body of the reply to it. A request that cannot be built is not
sent. -/
def fetch {α : Type} (read : Json → Option α) (request : Except Fault Request) (reply : Reply) :
    Call Fault α := do
  let request ← Call.ofExcept request
  if reply.isReceived then Call.emit (.web request)
  let body ← Call.ofExcept (reply.body request.url.text)
  match (Json.parse? body).bind read with
  | some a => return a
  | none => Call.fail .undecodable

end NodeDiscovery.Http
