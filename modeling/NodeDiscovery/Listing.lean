import NodeDiscovery.Call

/-! Listings that come page by page. A reader starts at a cursor and asks until a page says that
there are no more. -/
namespace NodeDiscovery

/-- How a listing is read: replies `ρ` to requests at cursors `σ` bring pages `π`. -/
structure Listing (ρ ε σ π : Type) where
  /-- Asks for the page at a cursor and reads the reply to that. -/
  fetch : σ → ρ → Call ε π
  /-- Where the page after this one begins, if there is one. -/
  next : σ → π → Option σ
  /-- The reply of a server that has no more to say. -/
  spent : ρ

namespace Listing
variable {ρ ε σ π : Type}

/-- All pages from a cursor on, and the replies that were not needed. A page from a server with no
more to say is the last one. -/
def pages (l : Listing ρ ε σ π) (cursor : σ) : List ρ → Call ε (List π × List ρ)
  | [] => do
    let page ← l.fetch cursor l.spent
    return ([page], [])
  | reply :: later => do
    let page ← l.fetch cursor reply
    match l.next cursor page with
    | none => return ([page], later)
    | some cursor =>
      let (pages, later) ← l.pages cursor later
      return (page :: pages, later)

end Listing
end NodeDiscovery
