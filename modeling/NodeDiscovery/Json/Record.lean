import NodeDiscovery.Json.Value

/-! Records with known fields, written as objects, or as arrays of their fields in order. -/
namespace NodeDiscovery.Json

/-- What holds of a field that is not there. -/
inductive Presence
  | required
  /-- It may be missing from an object, where it means null. -/
  | nullable
  /-- It may be missing from an object or from the end of an array, where it has a default. -/
  | defaulted
deriving DecidableEq

/-- The value of a field among the members of an object. It may not be there twice. -/
def field? (members : List (Option String × Json)) (name : String) (presence : Presence) :
    Option (Option Json) :=
  match members.filter (·.1 = some name) with
  | [] => if presence = .required then none else some none
  | [(_, value)] => some (some value)
  | _ => none

/-- The values of the fields of a record, in the order of the fields. Other members are ignored, but
their names have to be readable. -/
def record? (fields : List (String × Presence)) : Json → Option (List (Option Json))
  | object members =>
    if members.all (·.1.isSome) then fields.mapM fun f => field? members f.1 f.2 else none
  | array elements =>
    let missing := fields.drop elements.length
    if elements.length ≤ fields.length ∧ missing.all (·.2 = .defaulted) then
      some (elements.map some ++ missing.map fun _ => none)
    else none
  | _ => none

/-- Reads a field that has to be there. -/
def present? {α : Type} (read : Json → Option α) (value : Option Json) : Option α :=
  value.bind read

/-- Reads a field that may be missing or null. -/
def orNothing? {α : Type} (read : Json → Option α) : Option Json → Option (Option α)
  | none => some none
  | some j => j.nullable? read

/-- Reads a field that may be missing. -/
def orDefault? {α : Type} (default : α) (read : Json → Option α) : Option Json → Option α
  | none => some default
  | some j => read j

end NodeDiscovery.Json
