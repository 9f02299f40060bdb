import NodeDiscovery.Listing
import NodeDiscovery.Proofs.Call
import Mathlib.Data.List.Forall2

/-! Runs through a listing in which every page arrives: they ask along the cursors and keep all
pages. -/
namespace NodeDiscovery.Listing

section Slices
variable {α : Type}

def slice (size page : Nat) (items : List α) : List α := (items.drop ((page - 1) * size)).take size

theorem length_slice (size i : Nat) (items : List α) :
    (slice size (i + 1) items).length = min size (items.length - i * size) := by
  rw [slice, List.length_take, List.length_drop, Nat.add_sub_cancel]

/-- Pages put together are the items up to the end of the last page. -/
theorem flatten_slices (size n : Nat) (items : List α) :
    ((List.range n).map fun i => slice size (i + 1) items).flatten = items.take (n * size) := by
  induction n with
  | zero => simp
  | succ n ih =>
    rw [List.range_succ, List.map_append, List.flatten_append, ih, Nat.succ_mul, List.take_add]
    simp [slice]

end Slices

variable {ρ ε σ π : Type} {l : Listing ρ ε σ π} {logger : Logger} {cursor : σ}
  {replies later : List ρ} {pages : List π} {events : List Event}

theorem silent_pages (hfetch : ∀ cursor reply, (l.fetch cursor reply).Silent) (cursor : σ)
    (replies : List ρ) : (l.pages cursor replies).Silent := by
  induction replies generalizing cursor with
  | nil => exact (hfetch cursor l.spent).bind fun page => Call.silent_ofExcept _
  | cons reply later ih =>
    rw [Listing.pages]
    refine (hfetch cursor reply).bind fun page => ?_
    cases l.next cursor page with
    | none => exact Call.silent_ofExcept _
    | some cursor' => exact (ih cursor').bind fun found => Call.silent_ofExcept _

/-- Replies that are as good as others bring the same pages, and as many of them are left. -/
theorem pages_map {g : ρ → ρ}
    (hfetch : ∀ cursor reply, l.fetch cursor (g reply) = l.fetch cursor reply) (cursor : σ)
    (replies : List ρ) :
    l.pages cursor (replies.map g) =
      (fun found => (found.1, found.2.map g)) <$> l.pages cursor replies := by
  induction replies generalizing cursor with
  | nil => simp [Listing.pages]
  | cons reply later ih =>
    rw [List.map_cons, Listing.pages, Listing.pages, hfetch, map_bind]
    congr 1
    funext page
    cases l.next cursor page with
    | none => simp
    | some cursor' => simp [ih]

/-- From a cursor on, replies bring one page after another until one that no page follows; the
requests for them are the events, and the replies after that are left for later. -/
inductive Visits (l : Listing ρ ε σ π) (logger : Logger) :
    σ → List ρ → List π → List Event → List ρ → Prop
  | last {cursor : σ} {reply : ρ} {later : List ρ} {page : π} {events : List Event}
      (fetched : (l.fetch cursor reply).run logger = ⟨.ok page, [], events⟩)
      (ends : l.next cursor page = none) :
      Visits l logger cursor (reply :: later) [page] events later
  | more {cursor cursor' : σ} {reply : ρ} {replies later : List ρ} {page : π} {pages : List π}
      {events events' : List Event}
      (fetched : (l.fetch cursor reply).run logger = ⟨.ok page, [], events⟩)
      (goesOn : l.next cursor page = some cursor')
      (rest : Visits l logger cursor' replies pages events' later) :
      Visits l logger cursor (reply :: replies) (page :: pages) (events ++ events') later

theorem Visits.run_pages (h : Visits l logger cursor replies pages events later) :
    (l.pages cursor replies).run logger = ⟨.ok (pages, later), [], events⟩ := by
  induction h with
  | last fetched ends =>
    rw [Listing.pages, Call.run_bind_ok fetched, ends]
    simp
  | more fetched goesOn rest ih =>
    rw [Listing.pages, Call.run_bind_ok fetched, goesOn]
    simp only
    rw [Call.run_bind_ok ih]
    simp

/-- Pages that are numbered are all asked for, where each one but the last leads to the next. -/
theorem visits_of_numbered (cursor : Nat → σ) {reply : Nat → ρ} {page : Nat → π}
    {event : Nat → Event} {last : Nat}
    (hfetch : ∀ i ≤ last,
      (l.fetch (cursor i) (reply i)).run logger = ⟨.ok (page i), [], [event i]⟩)
    (hgoesOn : ∀ i < last, l.next (cursor i) (page i) = some (cursor (i + 1)))
    (hends : l.next (cursor last) (page last) = none) (later : List ρ) :
    l.Visits logger (cursor 0) ((List.range (last + 1)).map reply ++ later)
      ((List.range (last + 1)).map page) ((List.range (last + 1)).map event) later := by
  -- From any page on, by induction on the number of those that follow it.
  have hfrom (n i : Nat) (hi : i + n = last) :
      l.Visits logger (cursor i) ((List.range' i (n + 1)).map reply ++ later)
        ((List.range' i (n + 1)).map page) ((List.range' i (n + 1)).map event) later := by
    induction n generalizing i with
    | zero =>
      obtain rfl : i = last := hi
      exact .last (hfetch i (Nat.le_refl i)) hends
    | succ n ih =>
      have hrest := ih (i + 1) (by omega)
      rw [List.range'_succ]
      exact .more (hfetch i (by omega)) (hgoesOn i (by omega)) hrest
  have hall := hfrom last 0 (Nat.zero_add last)
  rwa [← List.range_eq_range'] at hall

/-- Replies that bring pages, where each page but the last one says where the next one is, are asked
for at just these cursors. -/
theorem visits_of_continues {next : π → Option σ} {event : σ → Event} {cursors : List σ}
    (hnext : ∀ cursor page, l.next cursor page = next page)
    (hbrings : List.Forall₂ (fun reply page => ∀ cursor,
      (l.fetch cursor reply).run logger = ⟨.ok page, [], [event cursor]⟩) replies pages)
    (hcontinues : pages.map next = cursors.map some ++ [none]) (start : σ) (later : List ρ) :
    l.Visits logger start (replies ++ later) pages ((start :: cursors).map event) later := by
  -- The cursors are as many as the pages that go on; the induction takes one off each list.
  induction cursors generalizing start pages replies with
  | nil =>
    obtain ⟨page, rfl, hends⟩ := List.map_eq_singleton_iff.mp hcontinues
    obtain ⟨reply, _, hpage, hnil, rfl⟩ := List.forall₂_cons_right_iff.mp hbrings
    obtain rfl := List.forall₂_nil_right_iff.mp hnil
    refine .last (hpage start) ?_
    rw [hnext, hends]
  | cons cursor cursors ih =>
    obtain ⟨page, rest, rfl, hpageNext, hrestNext⟩ := List.map_eq_cons_iff.mp hcontinues
    obtain ⟨reply, replies, hpage, hrest, rfl⟩ := List.forall₂_cons_right_iff.mp hbrings
    have hgoesOn : l.next start page = some cursor := by rw [hnext, hpageNext]
    show l.Visits logger start _ _ ([event start] ++ (cursor :: cursors).map event) later
    exact .more (hpage start) hgoesOn (ih hrest hrestNext cursor)

end NodeDiscovery.Listing
