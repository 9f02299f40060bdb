import NodeDiscovery.Config.Json
import NodeDiscovery.Proofs.Json.Writing

/-! Configurations as JSON objects. Which texts stand for a configuration, and that the text written
for one stands for it. -/
namespace NodeDiscovery.Config
open NodeDiscovery.Json (textMember)

theorem mapM_option_map_textMember (rows : List (String × String)) :
    (rows.map textMember).mapM option? = some rows := by
  have hone (row : String × String) : option? (textMember row) = some row := rfl
  exact Json.mapM_map_eq_some hone rows

/-- A member is an option only if its name and its value are texts. -/
theorem option_eq_some_iff {member : Option String × Json} {row : String × String} :
    option? member = some row ↔ member = textMember row := by
  constructor
  · intro h
    unfold option? at h
    split at h
    · cases h
      rfl
    · cases h
  · rintro rfl
    rfl

theorem mapM_option_eq_some_iff {members : List (Option String × Json)}
    {rows : List (String × String)} :
    members.mapM option? = some rows ↔ members = rows.map textMember := by
  constructor
  · intro h
    induction members generalizing rows with
    | nil =>
      cases h
      rfl
    | cons member members ih =>
      simp only [List.mapM_cons, bind, Option.bind_eq_some_iff, pure, Option.some.injEq] at h
      obtain ⟨row, hrow, more, hmore, rfl⟩ := h
      rw [List.map_cons, ← ih hmore, ← option_eq_some_iff.1 hrow]
  · rintro rfl
    exact mapM_option_map_textMember rows

/-- The texts that stand for a configuration are the objects of texts. Members of one name may come
more than once; the last one counts. -/
theorem ofJson_eq_some_iff {s : String} {c : Config} :
    ofJson? s = some c ↔ ∃ rows, Json.parse? s = some (.object (rows.map textMember)) ∧
      c = Table.ofList rows := by
  unfold ofJson?
  constructor
  · intro h
    split at h
    · next members hparse =>
      obtain ⟨rows, hrows, rfl⟩ := Option.map_eq_some_iff.1 h
      exact ⟨rows, mapM_option_eq_some_iff.1 hrows ▸ hparse, rfl⟩
    · cases h
  · rintro ⟨rows, hparse, rfl⟩
    simp only [hparse, mapM_option_map_textMember, Option.map_some]

theorem parse_toJson (c : Config) :
    Json.parse? c.toJson = some (.object (c.rows.map textMember)) :=
  Json.parse_writeObject c.rows

theorem ofJson_toJson (c : Config) : ofJson? c.toJson = some c :=
  ofJson_eq_some_iff.2 ⟨c.rows, parse_toJson c, (Table.ofList_rows c).symm⟩

/-- Whatever characters its keys and values hold, a configuration is read again from the JSON text
that is written for it. That text is an object with one member for each option, in ascending order
of the keys; the provider stands where its key comes. -/
theorem json_round_trip (c : Config) :
    ofJson? c.toJson = some c ∧
      ∃ entries : List (String × String), entries.Pairwise (fun a b => a.1 < b.1) ∧
        (∀ key value, (key, value) ∈ entries ↔ c.get? key = some value) ∧
        Json.parse? c.toJson =
          some (.object (entries.map fun entry => (some entry.1, .text (some entry.2)))) := by
  refine ⟨ofJson_toJson c, c.rows, c.ascending, ?_, parse_toJson c⟩
  intro key value
  exact Table.get?_eq_some_iff.symm

end NodeDiscovery.Config
