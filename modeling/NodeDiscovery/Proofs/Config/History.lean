import NodeDiscovery.Config.Printer
import NodeDiscovery.Proofs.Config.Json
import NodeDiscovery.Proofs.Config.RoundTrip

/-! Configurations over whole histories. However a configuration began and whatever was put in and
taken out since, each of its views shows the plain map of the last writes, and nothing else of the
history is left in it. -/
namespace NodeDiscovery.Config

abbrev Write := String × Option String

/-- What stands at a key after these writes: the last one to that key counts. -/
def lastWrite (writes : List Write) (key : String) : Option String :=
  (writes.filter (·.1 = key)).getLast?.bind Prod.snd

theorem lastWrite_concat (writes : List Write) (write : Write) (key : String) :
    lastWrite (writes ++ [write]) key =
      if key = write.1 then write.2 else lastWrite writes key := by
  unfold lastWrite
  rw [List.filter_append]
  by_cases h : key = write.1
  · rw [List.filter_cons_of_pos (by simpa using h.symm), List.filter_nil,
      List.getLast?_concat, if_pos h, Option.bind_some]
  · rw [List.filter_cons_of_neg (by simpa using Ne.symm h), List.filter_nil, List.append_nil,
      if_neg h]

inductive Change
  | insert (key value : String)
  | remove (key : String)
deriving DecidableEq, Repr

namespace Change

def key : Change → String
  | insert key _ => key
  | remove key => key

def write : Change → Write
  | insert key value => (key, some value)
  | remove key => (key, none)

end Change

def change (c : Config) : Change → Option String × Config
  | .insert key value => c.getThenInsert key value
  | .remove key => c.getThenErase key

def changeAll (c : Config) : List Change → List (Option String) × Config
  | [] => ([], c)
  | first :: changes =>
    let next := c.change first
    let final := next.2.changeAll changes
    (next.1 :: final.1, final.2)

def Holds (c : Config) (writes : List Write) : Prop :=
  ∀ key, c.get? key = lastWrite writes key

theorem holds_empty : Holds .empty [] := fun _ => rfl

theorem Holds.insert {c : Config} {writes : List Write} (h : Holds c writes)
    (key value : String) : Holds (c.insert key value) (writes ++ [(key, some value)]) := by
  intro other
  rw [Table.get?_insert, lastWrite_concat, h other]

theorem Holds.erase {c : Config} {writes : List Write} (h : Holds c writes) (key : String) :
    Holds (c.erase key) (writes ++ [(key, none)]) := by
  intro other
  rw [Table.get?_erase, lastWrite_concat, h other]

theorem Holds.change {c : Config} {writes : List Write} (h : Holds c writes) (change : Change) :
    (c.change change).1 = lastWrite writes change.key ∧
      Holds (c.change change).2 (writes ++ [change.write]) := by
  cases change with
  | insert key value => exact ⟨h key, h.insert key value⟩
  | remove key => exact ⟨h key, h.erase key⟩

theorem Holds.changeAll {c : Config} {writes : List Write} (h : Holds c writes)
    (changes : List Change) :
    Holds (c.changeAll changes).2 (writes ++ changes.map Change.write) := by
  -- Along the changes, each of which adds its write to those before it.
  induction changes generalizing c writes with
  | nil => simpa [Config.changeAll] using h
  | cons first changes ih =>
    have hnext := ih (h.change first).2
    rwa [List.append_assoc] at hnext

theorem length_answers (c : Config) (changes : List Change) :
    (c.changeAll changes).1.length = changes.length := by
  induction changes generalizing c with
  | nil => rfl
  | cons first changes ih => simp [changeAll, ih]

/-- Each change is answered with what the writes before it left at its key. -/
theorem Holds.answer {c : Config} {writes : List Write} (h : Holds c writes)
    (before : List Change) (change : Change) (after : List Change) :
    (c.changeAll (before ++ change :: after)).1[before.length]? =
      some (lastWrite (writes ++ before.map Change.write) change.key) := by
  induction before generalizing c writes with
  | nil => simp [Config.changeAll, (h.change change).1]
  | cons first before ih =>
    have hnext := ih (h.change first).2
    rw [List.append_assoc] at hnext
    simpa [Config.changeAll] using hnext

def writesOf (pairs : List (String × String)) : List Write :=
  pairs.map fun pair => (pair.1, some pair.2)

theorem Holds.insertAll {c : Config} {writes : List Write} (h : Holds c writes)
    (pairs : List (String × String)) : Holds (c.insertAll pairs) (writes ++ writesOf pairs) := by
  induction pairs generalizing c writes with
  | nil => simpa [writesOf] using h
  | cons pair pairs ih =>
    have hnext := ih (h.insert pair.1 pair.2)
    rwa [List.append_assoc] at hnext

theorem holds_ofList (pairs : List (String × String)) :
    Holds (Table.ofList pairs) (writesOf pairs) :=
  holds_empty.insertAll pairs

inductive Start
  | empty
  | text (s : String)
  | list (pairs : List (String × String))
  | json (s : String)

def Start.config? : Start → Option Config
  | empty => some .empty
  | text s => (parse s).toOption
  | list pairs => some (.ofList pairs)
  | json s => ofJson? s

/-- The pairs that a start brings, in their order: none, those a text spells, each with a key of its
own, those of a list, or the members of an object of texts. -/
inductive Start.Brings : Start → List (String × String) → Prop
  | empty : Brings .empty []
  | text {s : String} {pairs : List (String × String)} (h : Spells [] pairs s.toList)
      (hnodup : (pairs.map Prod.fst).Nodup) : Brings (.text s) pairs
  | list (pairs : List (String × String)) : Brings (.list pairs) pairs
  | json {s : String} {pairs : List (String × String)}
      (h : Json.parse? s =
        some (.object (pairs.map fun pair => (some pair.1, .text (some pair.2))))) :
      Brings (.json s) pairs

/-- The starts that make a configuration are those that bring pairs, and these are put in. -/
theorem Start.config_eq_some_iff {start : Start} {c : Config} :
    start.config? = some c ↔ ∃ pairs, start.Brings pairs ∧ c = .ofList pairs := by
  constructor
  · intro h
    cases start with
    | empty =>
      cases h
      exact ⟨[], .empty, rfl⟩
    | text s =>
      have hparse : parse s = .ok c := by
        cases hs : parse s with
        | error e => simp [config?, hs, Except.toOption] at h
        | ok d => simpa [config?, hs, Except.toOption] using h
      obtain ⟨pairs, hyields, hnodup, rfl⟩ := parse_eq_ok_iff_yields.1 hparse
      exact ⟨pairs, .text (yields_iff_spells.1 hyields) hnodup, rfl⟩
    | list pairs =>
      cases h
      exact ⟨pairs, .list pairs, rfl⟩
    | json s =>
      obtain ⟨pairs, hs, rfl⟩ := ofJson_eq_some_iff.1 h
      exact ⟨pairs, .json hs, rfl⟩
  · rintro ⟨pairs, hb, rfl⟩
    cases hb with
    | empty => rfl
    | text hs hnodup =>
      have hparse := parse_eq_ok_iff_yields.2 ⟨pairs, yields_iff_spells.2 hs, hnodup, rfl⟩
      simp [config?, hparse, Except.toOption]
    | list => rfl
    | json hs => exact ofJson_eq_some_iff.2 ⟨pairs, hs, rfl⟩

structure History where
  start : Start
  changes : List Change

def History.run (h : History) : Option (List (Option String) × Config) :=
  h.start.config?.map fun c => c.changeAll h.changes

/-- A configuration that shows the map `content` in all its views. -/
structure Shows (c : Config) (content : String → Option String) : Prop where
  get : ∀ key, c.get? key = content key
  contains : ∀ key, c.contains key = (content key).isSome
  /-- However the keys of the map are listed once each, there are `size` of them. -/
  size : ∀ keys : List String, keys.Nodup → (∀ key, key ∈ keys ↔ (content key).isSome) →
    c.size = keys.length
  isEmpty : c.isEmpty = true ↔ ∀ key, content key = none
  names_ascending : c.names.Pairwise (· < ·)
  mem_names : ∀ key, key ∈ c.names ↔ (content key).isSome
  rows_names : c.rows.map Prod.fst = c.names
  mem_rows : ∀ key value, (key, value) ∈ c.rows ↔ content key = some value

theorem shows_get? (c : Config) : Shows c c.get? where
  get _ := rfl
  contains _ := rfl
  size := by
    intro keys hnodup hkeys
    have hperm : c.names.Perm keys := by
      rw [List.perm_ext_iff_of_nodup c.nodup_names hnodup]
      intro key
      rw [hkeys, Table.isSome_get?_iff]
    rw [← Table.length_names, hperm.length_eq]
  isEmpty := by
    constructor
    · intro h key
      have hrows : c.rows = [] := List.isEmpty_iff.1 h
      rw [Table.get?, hrows, Table.lookupRow]
    · intro h
      refine List.isEmpty_iff.2 (List.eq_nil_iff_forall_not_mem.2 ?_)
      rintro ⟨key, value⟩ hrow
      have hsome := Table.get?_eq_some_iff.2 hrow
      rw [h key] at hsome
      cases hsome
  names_ascending := c.names_ascending
  mem_names _ := Table.isSome_get?_iff.symm
  rows_names := rfl
  mem_rows _ _ := Table.get?_eq_some_iff.symm

theorem render_injective {c d : Config} (h : c.render = d.render) : c = d := by
  have hyields (e : Config) : Yields e.render.toList e.pairs := by
    rw [render, String.toList_ofList]
    exact yields_iff_spells.2 (spells_writePairs e.pairs)
  have hpairs : c.pairs = d.pairs := (hyields c).unique (h ▸ hyields d)
  apply Table.ext_get?
  intro key
  apply Option.ext
  intro value
  rw [← mem_pairs_iff, ← mem_pairs_iff, hpairs]

theorem toJson_injective {c d : Config} (h : c.toJson = d.toJson) : c = d := by
  have hc := ofJson_toJson c
  rw [h, ofJson_toJson d] at hc
  exact (Option.some.inj hc).symm

/-- A history is the writes of its start and of its changes. All views of the configuration it ends
with show the last of them at each key, the keys in ascending order of their characters; each change
is answered with the value that was there; and of two histories, whatever they were, the
configurations are equal once all lookups are, which is when both of their texts are. -/
theorem history_last_write {h : History} {answers : List (Option String)} {c : Config}
    (hrun : h.run = some (answers, c)) :
    ∃ pairs, h.start.Brings pairs ∧
      Shows c (lastWrite (writesOf pairs ++ h.changes.map Change.write)) ∧
      answers.length = h.changes.length ∧
      (∀ before change after, h.changes = before ++ change :: after →
        answers[before.length]? =
          some (lastWrite (writesOf pairs ++ before.map Change.write) change.key)) ∧
      ∀ (h' : History) (answers' : List (Option String)) (d : Config),
        h'.run = some (answers', d) →
        ((∀ key, c.get? key = d.get? key) ↔ c = d) ∧ (c = d ↔ c.render = d.render) ∧
          (c = d ↔ c.toJson = d.toJson) := by
  obtain ⟨c₀, hstart, hchanges⟩ := Option.map_eq_some_iff.1 hrun
  obtain ⟨pairs, hpairs, rfl⟩ := Start.config_eq_some_iff.1 hstart
  obtain ⟨hanswers, hc⟩ := Prod.mk.inj hchanges
  have hholds := holds_ofList pairs
  have hlookups : c.get? = lastWrite (writesOf pairs ++ h.changes.map Change.write) := by
    funext key
    rw [← hc]
    exact hholds.changeAll h.changes key
  refine ⟨pairs, hpairs, ?_, ?_, ?_, ?_⟩
  · rw [← hlookups]
    exact shows_get? c
  · rw [← hanswers, length_answers]
  · intro before change after hsplit
    rw [← hanswers, hsplit]
    exact hholds.answer before change after
  · intro h' answers' d _
    refine ⟨⟨Table.ext_get?, ?_⟩, ⟨congrArg render, render_injective⟩,
      ⟨congrArg toJson, toJson_injective⟩⟩
    rintro rfl key
    rfl

/-- A list of pairs with two of one key, and then a new key, one that goes and one that changes. -/
def sampleHistory : History where
  start := .list [("b", "1"), ("a", "2"), ("b", "3")]
  changes := [.insert "provider" "aws", .remove "a", .insert "b" "4"]

theorem history_last_write_sample :
    ∃ answers c, sampleHistory.run = some (answers, c) ∧ answers = [none, some "2", some "3"] ∧
      c.rows = [("b", "4"), ("provider", "aws")] ∧
      ∃ pairs, sampleHistory.start.Brings pairs ∧
        Shows c (lastWrite (writesOf pairs ++ sampleHistory.changes.map Change.write)) := by
  have hrun : sampleHistory.run = some
      ([none, some "2", some "3"], ⟨[("b", "4"), ("provider", "aws")], by decide +kernel⟩) := by
    decide +kernel
  obtain ⟨pairs, hpairs, hshows, _⟩ := history_last_write hrun
  exact ⟨_, _, hrun, rfl, rfl, pairs, hpairs, hshows⟩

end NodeDiscovery.Config
