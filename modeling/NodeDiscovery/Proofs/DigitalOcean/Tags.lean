import NodeDiscovery.Provider.DigitalOcean
import Mathlib.Data.List.Forall2

/-! Which tags a configuration asks for, and which droplets carry them: neither depends on how the
tags are written down. -/
namespace NodeDiscovery.DigitalOcean

/-- The tags between the commas of a text, which may have blanks around them; pieces with nothing
but blanks name no tag. -/
def Lists (names : String) (required : List String) : Prop :=
  ∃ (pieces : List (List Char)) (padded : List String),
    names.toList = [','].intercalate pieces ∧ (∀ piece ∈ pieces, ',' ∉ piece) ∧
    List.Forall₂ (fun piece tag => Text.Pads piece tag.toList) pieces padded ∧
    required = padded.filter (· ≠ "")

/-- The tags a configuration asks for: those of a list if there is one, or else a single one. -/
def Requires (c : Config) (required : List String) : Prop :=
  match c.get? "tag_names" with
  | some names => Lists names required
  | none => ∃ tag, c.get? "tag_name" = some tag ∧ tag ≠ "" ∧ required = [tag]

theorem forall₂_pads_iff {pieces : List (List Char)} {padded : List String} :
    List.Forall₂ (fun piece tag => Text.Pads piece tag.toList) pieces padded ↔
      pieces.map (fun piece => String.ofList (Text.trim piece)) = padded := by
  have hpads (piece : List Char) (tag : String) :
      Text.Pads piece tag.toList ↔ String.ofList (Text.trim piece) = tag := by
    rw [← Text.trim_eq_iff_pads]
    constructor
    · intro h
      rw [h, String.ofList_toList]
    · rintro rfl
      rw [String.toList_ofList]
  simp only [hpads]
  rw [← List.forall₂_eq_eq_eq, List.forall₂_map_left_iff]

theorem splitTags_eq (names : String) :
    splitTags names = ((Text.splitAt ',' names.toList).map fun piece =>
      String.ofList (Text.trim piece)).filter (· ≠ "") := by
  rw [splitTags, List.filter_map, List.filter_map, List.map_map]
  congr 1
  refine List.filter_congr fun piece _ => ?_
  simp only [Function.comp_apply, ne_eq, String.ofList_eq_empty_iff]

theorem lists_iff {names : String} {required : List String} :
    Lists names required ↔ splitTags names = required := by
  rw [splitTags_eq]
  constructor
  · rintro ⟨pieces, padded, hnames, hpieces, hpadded, rfl⟩
    obtain rfl := forall₂_pads_iff.mp hpadded
    cases pieces with
    | nil =>
      rw [hnames]
      rfl
    | cons piece pieces => rw [hnames, Text.splitAt_intercalate hpieces]
  · intro h
    exact ⟨_, _, (Text.intercalate_splitAt ',' names.toList).symm,
      fun piece hp => Text.not_mem_of_mem_splitAt hp, forall₂_pads_iff.mpr rfl, h.symm⟩

/-- The tags are found exactly when the configuration asks for at least one. -/
theorem tags_eq_ok_iff {c : Config} {first : String} {rest : List String} :
    tags c = .ok (first, rest) ↔ Requires c (first :: rest) := by
  unfold tags Requires
  cases c.get? "tag_names" with
  | some names =>
    simp only [lists_iff]
    cases splitTags names <;> simp
  | none =>
    simp only [Config.nonempty?]
    cases c.get? "tag_name" with
    | none => simp
    | some tag =>
      by_cases h : tag = ""
      · simp [h, Option.filter]
      · simp [h, Option.filter, eq_comm]

end NodeDiscovery.DigitalOcean
