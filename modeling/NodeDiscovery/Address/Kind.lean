/-! The kinds of addresses a provider can be asked for. -/
namespace NodeDiscovery

inductive AddressKind
  | privateV4
  | publicV4
  | privateV6
  | publicV6
deriving DecidableEq, Repr

namespace AddressKind

/-- The kind meant where none is given. -/
instance : Inhabited AddressKind := ⟨privateV4⟩

def name : AddressKind → String
  | privateV4 => "private_v4"
  | publicV4 => "public_v4"
  | privateV6 => "private_v6"
  | publicV6 => "public_v6"

def ofName? : String → Option AddressKind
  | "private_v4" => some privateV4
  | "public_v4" => some publicV4
  | "private_v6" => some privateV6
  | "public_v6" => some publicV6
  | _ => none

theorem ofName?_eq_some_iff {s : String} {k : AddressKind} : ofName? s = some k ↔ s = k.name := by
  constructor
  · intro h
    unfold ofName? at h
    split at h <;> first | (cases h; rfl) | cases h
  · rintro rfl
    cases k <;> rfl

/-- What is said about a text that names no kind. -/
def unknownNameMessage : String := "expected one of private_v4, public_v4, private_v6 or public_v6"

/-- The kind of that name, or the reason why there is none. -/
def read (s : String) : Except String AddressKind :=
  match ofName? s with
  | some k => .ok k
  | none => .error unknownNameMessage

end AddressKind
end NodeDiscovery
