import NodeDiscovery.Address.Kind
import NodeDiscovery.Config.Basic
import NodeDiscovery.Provider.Error
import NodeDiscovery.World

/-! Reading the options of a provider. An empty value counts as a missing one. -/
namespace NodeDiscovery.Config

/-- Fails unless the configuration asks for the provider of that name. -/
def expectProvider (c : Config) (name : String) : Except ProviderError Unit :=
  if c.provider = some name then .ok () else .error (.invalidProvider (c.provider.getD ""))

theorem expectProvider_eq_ok_iff {c : Config} {name : String} :
    c.expectProvider name = .ok () ↔ c.provider = some name := by
  unfold expectProvider
  split <;> simp_all

/-- The value of an option that has to be there. -/
def required (c : Config) (key : String) : Except ProviderError String :=
  match c.nonempty? key with
  | some value => .ok value
  | none => .error (.missingArgument key)

/-- The value of an option that means something, or the default. -/
def parsed {α : Type} (c : Config) (key : String) (read : String → Except String α) (default : α) :
    Except ProviderError α :=
  match c.nonempty? key with
  | none => .ok default
  | some value => (read value).mapError fun reason =>
      .malformedArgument (key ++ "=" ++ value) reason

/-- The value of an option, or else of an environment variable. -/
def orVariable (c : Config) (key : String) (env : Environment) (variable_ : String) :
    Option String :=
  c.nonempty? key <|> (env variable_).filter (· ≠ "")

/-- The token for a web service. -/
def apiToken (c : Config) (env : Environment) (variable_ : String) :
    Except ProviderError String :=
  match c.orVariable "api_token" env variable_ with
  | some token => .ok token
  | none => .error (.missingArgument "api_token")

end NodeDiscovery.Config
