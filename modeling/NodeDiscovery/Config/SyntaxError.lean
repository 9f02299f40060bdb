/-! What can be wrong with the text of a configuration. -/
namespace NodeDiscovery

/-- A fault in the text of a configuration, with the key it was met at. -/
inductive SyntaxError
  | missingKey
  | missingEquals (key : String)
  | missingValue (key : String)
  | unbalancedQuotes (key : String)
  | unterminatedEscape (key : String)
  | duplicateKey (key : String)
  | unquotedEquals (key : String)
deriving DecidableEq, Repr

def SyntaxError.message : SyntaxError → String
  | missingKey => "missing key"
  | missingEquals key => key ++ ": missing '='"
  | missingValue key => key ++ ": missing value"
  | unbalancedQuotes key => key ++ ": unbalanced quotes"
  | unterminatedEscape key => key ++ ": unterminated escape sequence"
  | duplicateKey key => key ++ ": duplicate key"
  | unquotedEquals key =>
    key ++ ": - equals in key's value, enclosing double-quote needed " ++ key ++
      "=\"value-with-=-symbol\""

end NodeDiscovery
