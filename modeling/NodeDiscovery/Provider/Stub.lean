import NodeDiscovery.Provider.Basic
import NodeDiscovery.Text.Quoted

/-! Providers that answer what they were told to, and tell who asked. They stand in for others. -/
namespace NodeDiscovery.Stub

def target : String := "discover-fake"

/-- Answers with the result. The number tells one such provider from another. -/
def find (id : Nat) (result : Except ProviderError (List String)) (userAgent : Option String)
    (_ : World) (c : Config) : Call ProviderError (List String) := do
  Call.emit (.stub id c userAgent)
  Call.log .debug target ("called " ++ Text.quotedOption c.provider)
  match result with
  | .error fault => Call.log .warn target ("failing: " ++ fault.message)
  | .ok addresses => Call.log .info target ("returning " ++ Text.quotedList addresses)
  Call.ofExcept result

def provider (id : Nat) (help : String) (identifies : Bool)
    (result : Except ProviderError (List String)) : Provider :=
  ⟨help, identifies, none, find id result⟩

end NodeDiscovery.Stub
