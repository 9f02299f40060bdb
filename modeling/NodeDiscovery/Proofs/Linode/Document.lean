import NodeDiscovery.Proofs.Http.Fetch
import NodeDiscovery.Proofs.Json.Document
import NodeDiscovery.Provider.Linode

/-! The documents of a server of instances: for every page there is one that brings it. -/
namespace NodeDiscovery.Linode
open Json (writeArray writeText)

def Instance.write (i : Instance) : List Char :=
  writeArray [Nat.toDigits 10 i.id.toNat, writeText i.label, writeArray (i.ipv4.map writeText),
    match i.ipv6 with
    | none => "null".toList
    | some network => writeText network]

def Instance.json (i : Instance) : Json :=
  .array [.number i.id.toNat.repr, .text (some i.label),
    .array (i.ipv4.map fun ip => .text (some ip)),
    match i.ipv6 with
    | none => .null
    | some network => .text (some network)]

theorem Instance.denotes_write (i : Instance) : Json.Denotes i.write i.json := by
  refine Json.denotes_writeArray (.cons (Json.denotes_natural _)
    (.cons (Json.denotes_writeText _)
      (.cons (Json.denotes_writeArray_map Json.denotes_writeText _) (.cons ?_ .nil))))
  cases i.ipv6 with
  | none => exact Json.denotes_null
  | some network => exact Json.denotes_writeText network

theorem Instance.ofJson?_json (i : Instance) : ofJson? i.json = some i := by
  obtain ⟨id, label, ipv4, ipv6⟩ := i
  have htext (s : String) : Json.text? (.text (some s)) = some s := rfl
  have hips := Json.list?_array_map htext ipv4
  cases ipv6 <;>
    simp [ofJson?, json, Json.record?, Json.present?, Json.orDefault?, Json.orNothing?,
      Json.nullable?, Json.word64?_number, Json.text?, hips]

def Page.write (page : Page) : List Char :=
  writeArray [writeArray (page.instances.map Instance.write), Nat.toDigits 10 page.page.toNat,
    Nat.toDigits 10 page.pages.toNat]

def Page.reply (page : Page) : Http.Reply := .response 200 (String.ofList page.write)

theorem Page.brings_reply (page : Page) : page.reply.Brings ofJson? page := by
  have hdenotes : Json.Denotes page.write (.array [.array (page.instances.map Instance.json),
      .number page.page.toNat.repr, .number page.pages.toNat.repr]) :=
    Json.denotes_writeArray
      (.cons (Json.denotes_writeArray_map Instance.denotes_write _)
        (.cons (Json.denotes_natural _) (.cons (Json.denotes_natural _) .nil)))
  have hinstances := Json.list?_array_map Instance.ofJson?_json page.instances
  refine Http.Reply.brings_of_read ?_
  rw [hdenotes.parse_eq]
  simp [ofJson?, Json.record?, Json.present?, Json.word32?_number, hinstances]

end NodeDiscovery.Linode
