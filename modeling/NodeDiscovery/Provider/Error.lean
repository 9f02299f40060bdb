/-! Why a provider finds no addresses. -/
namespace NodeDiscovery

inductive ProviderError
  /-- The configuration asks for another provider. -/
  | invalidProvider (name : String)
  /-- An option has a value that means nothing. -/
  | malformedArgument (option reason : String)
  /-- A required option is missing or empty. -/
  | missingArgument (key : String)
  /-- What the provider asked for did not arrive. -/
  | requestFailed (reason : String)
deriving DecidableEq, Repr

def ProviderError.message : ProviderError → String
  | invalidProvider name => "invalid provider " ++ name
  | malformedArgument option reason =>
    "Invalid argument: `" ++ option ++ "`. Error message: `" ++ reason ++ "`"
  | missingArgument key => "Argument with key: `" ++ key ++ "` is required"
  | requestFailed reason =>
    "Unable to retrieve data from provider. Error message: `" ++ reason ++ "`"

end NodeDiscovery
