import NodeDiscovery.Json.Token

/-! Building a JSON value from its tokens. Open brackets are kept in a list, so that values may nest
to any depth. -/
namespace NodeDiscovery.Json

/-- An open bracket with what stands in it so far, latest first. -/
inductive Frame
  | array (before : List Json)
  | object (before : List (Option String × Json)) (name : Option String)

/-- Reads tokens inside the open brackets of `stack`. `done` is the value just finished; without
one a value has to come next. -/
def build (done : Option Json) (stack : List Frame) (tokens : List Token) : Option Json :=
  match done, stack, tokens with
  | none, _, .scalar value :: rest => build (some value) stack rest
  | none, _, .openArray :: .closeArray :: rest => build (some (.array [])) stack rest
  | none, _, .openArray :: rest => build none (.array [] :: stack) rest
  | none, _, .openObject :: .closeObject :: rest => build (some (.object [])) stack rest
  | none, _, .openObject :: .scalar (.text name) :: .colon :: rest =>
    build none (.object [] name :: stack) rest
  | some value, .array before :: outer, .comma :: rest =>
    build none (.array (value :: before) :: outer) rest
  | some value, .array before :: outer, .closeArray :: rest =>
    build (some (.array (value :: before).reverse)) outer rest
  | some value, .object before name :: outer, .comma :: .scalar (.text next) :: .colon :: rest =>
    build none (.object ((name, value) :: before) next :: outer) rest
  | some value, .object before name :: outer, .closeObject :: rest =>
    build (some (.object ((name, value) :: before).reverse)) outer rest
  | some value, [], [] => some value
  | _, _, _ => none
termination_by structural tokens

/-- The value a text stands for; nothing but spaces may follow it. -/
def parse? (s : String) : Option Json := do
  build none [] (← tokens s)

end NodeDiscovery.Json
